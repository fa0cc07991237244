import Backtrace.Text.Blank

/-!
# Characters, listed

A grammar that lists its characters does not depend on how they are recognized. Here are the
characters with the Unicode property `White_Space`, one by one, with texts that are white space
only or hold none, and the law by which a test of characters is found to pass the listed ones and
no others.
-/

namespace Backtrace.Text

/-- A test that passes the listed characters, and below a bound no others, passes exactly the
listed ones if it passes nothing from the bound on. -/
theorem passes_iff_mem {passes : Char → Bool} {listed : Text} {bound : Nat}
    (bounded : ∀ character, passes character = true → character.toNat < bound)
    (complete : ∀ point < bound, passes (Char.ofNat point) = true → Char.ofNat point ∈ listed)
    (sound : listed.all passes = true) {character : Char} :
    passes character = true ↔ character ∈ listed := by
  constructor
  · intro passed
    have found := complete character.toNat (bounded character passed)
    rw [Char.ofNat_toNat] at found
    exact found passed
  · exact List.all_eq_true.1 sound character

/-- The code points of the characters with the Unicode property `White_Space`. -/
def whiteSpace : List Nat :=
  [0x09, 0x0A, 0x0B, 0x0C, 0x0D, 0x20, 0x85, 0xA0, 0x1680, 0x2000, 0x2001, 0x2002, 0x2003, 0x2004,
    0x2005, 0x2006, 0x2007, 0x2008, 0x2009, 0x200A, 0x2028, 0x2029, 0x202F, 0x205F, 0x3000]

/-- The blank characters are the listed ones. -/
theorem isBlank_iff_mem {character : Char} :
    isBlank character = true ↔ character.toNat ∈ whiteSpace := by
  simp only [isBlank, whiteSpace, Bool.or_eq_true, Bool.and_eq_true, decide_eq_true_eq,
    beq_iff_eq, List.mem_cons, List.not_mem_nil, or_false]
  omega

/-- A text of white space only. -/
def IsWhite (text : Text) : Prop := ∀ character ∈ text, character.toNat ∈ whiteSpace

/-- A text without white space. -/
def IsSolid (text : Text) : Prop := ∀ character ∈ text, character.toNat ∉ whiteSpace

/-- White space only is blanks only. -/
theorem isWhite_iff_allBlank {text : Text} : IsWhite text ↔ AllBlank text := by
  simp only [IsWhite, AllBlank, isBlank_iff_mem]

/-- No white space is no blank. -/
theorem isSolid_iff_unbroken {text : Text} : IsSolid text ↔ Unbroken text := by
  simp only [IsSolid, Unbroken, ← Bool.not_eq_true, isBlank_iff_mem]

end Backtrace.Text
