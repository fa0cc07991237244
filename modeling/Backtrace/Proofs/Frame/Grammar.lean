import Backtrace.Proofs.Frame.Shape
import Backtrace.Proofs.Text.Listed

/-!
# The grammar of frame lines

Which texts are frame lines, and of which address, said without words, splitting or trimming: a
line is put together from literal characters, white space and a hexadecimal literal in one of two
ways. The characters are listed one by one. The main statement is that the address of a line is
the one that the grammar gives it, in its spelling, and that a line outside the grammar has none.
-/

namespace Backtrace

namespace Address

/-- The digits of hexadecimal literals. -/
def digits : Text := "0123456789abcdefABCDEF".toList

/-- The hexadecimal digits are the listed ones. -/
theorem isHexDigit_iff_mem {character : Char} : isHexDigit character = true ↔
    character ∈ digits := by
  have bounded (other : Char) (digit : isHexDigit other = true) : other.toNat < 0x67 := by
    have points := toNat_of_isHexDigit digit
    omega
  exact Text.passes_iff_mem bounded (by decide +kernel) (by decide)

/-- A hexadecimal literal: a zero, a mark in either case, and one or more digits. -/
def IsHexadecimal (text : Text) : Prop :=
  ∃ mark rest, text = '0' :: mark :: rest ∧ (mark = 'x' ∨ mark = 'X') ∧ rest ≠ [] ∧
    ∀ digit ∈ rest, digit ∈ digits

/-- The spelling of an address is a hexadecimal literal. -/
theorem isHexadecimal_spelling (address : Address) : IsHexadecimal address.spelling := by
  obtain ⟨mark, rest, spelled, marked, nonempty, hexadecimal⟩ := address.exists_spelling
  exact ⟨mark, rest, spelled, marked, nonempty, fun digit inside =>
    isHexDigit_iff_mem.1 (hexadecimal digit inside)⟩

/-- Every hexadecimal literal is the spelling of an address. -/
theorem exists_of_isHexadecimal {text : Text} (hexadecimal : IsHexadecimal text) :
    ∃ address : Address, address.spelling = text := by
  obtain ⟨mark, rest, rfl, marked, nonempty, listed⟩ := hexadecimal
  have all : rest.all isHexDigit = true :=
    List.all_eq_true.2 fun digit inside => isHexDigit_iff_mem.2 (listed digit inside)
  have literal : isLiteral ('0' :: mark :: rest) = true := by
    simp [isLiteral, marked, nonempty, all]
  exact ⟨⟨_, literal⟩, rfl⟩

end Address

namespace Frame

open Text

/-- The grammar of frame lines: the line is a blank, the address with a small mark, and perhaps
white space; or it is a blank, a first word that starts as an address with a small mark does,
white space, the address in parentheses, and perhaps white space. -/
def Reads (line address : Text) : Prop :=
  Address.IsHexadecimal address ∧
    ((∃ after, line = ' ' :: (address ++ after) ∧ ['0', 'x'] <+: address ∧ IsWhite after) ∨
      ∃ word between after, line = ' ' :: (word ++ between ++ '(' :: (address ++ ')' :: after)) ∧
        ['0', 'x'] <+: word ∧ IsSolid word ∧ between ≠ [] ∧ IsWhite between ∧ IsWhite after)

/-- The address of a line is read from it by the grammar. -/
theorem reads_of_address? {line : Text} {address : Address}
    (found : address? line = some address) : Reads line address.spelling := by
  have hexadecimal := address.isHexadecimal_spelling
  rcases shape_of_address? found with
    ⟨after, rfl, blank⟩ | ⟨word, part, rfl, starts, unbroken, link⟩
  · -- A frame line opens with a small mark, which here is that of the address itself.
    have opens : opening <+: ' ' :: (address.spelling ++ after) := by
      refine Decidable.byContradiction fun other => ?_
      rw [address?_of_not_opening other] at found
      simp at found
    have starts : mark <+: address.spelling := by
      obtain ⟨sign, rest, spelled, -⟩ := address.exists_spelling
      have marked := opening_prefix_cons_iff.1 opens
      rw [spelled] at marked ⊢
      simpa [mark] using marked
    exact ⟨hexadecimal, .inl ⟨after, rfl, starts, isWhite_iff_allBlank.2 blank⟩⟩
  · obtain ⟨between, after, rfl, nonempty, leading, trailing⟩ := link
    refine ⟨hexadecimal, .inr ⟨word, between, after, by simp, starts, ?_, nonempty, ?_, ?_⟩⟩
    · exact isSolid_iff_unbroken.2 unbroken
    · exact isWhite_iff_allBlank.2 leading
    · exact isWhite_iff_allBlank.2 trailing

/-- What the grammar reads from a line is its address. -/
theorem address?_of_reads {line : Text} {address : Address}
    (reads : Reads line address.spelling) : address? line = some address := by
  obtain ⟨-, ⟨after, rfl, starts, white⟩ |
    ⟨word, between, after, rfl, starts, solid, nonempty, leading, trailing⟩⟩ := reads
  · exact address?_of_alone starts (isWhite_iff_allBlank.1 white)
  · have link : IsLinkPart address (between ++ '(' :: (address.spelling ++ ')' :: after)) :=
      ⟨between, after, rfl, nonempty, isWhite_iff_allBlank.1 leading,
        isWhite_iff_allBlank.1 trailing⟩
    have linked := address?_of_linked starts (isSolid_iff_unbroken.1 solid) link
    rw [← List.append_assoc] at linked
    exact linked

/-- The address of a line is, in its spelling, what the grammar reads from the line, and a line
from which the grammar reads nothing has no address. -/
theorem address?_iff_reads (line : Text) :
    (∀ spelled, (address? line).map Address.spelling = some spelled ↔ Reads line spelled) ∧
      (address? line = none ↔ ∀ spelled, ¬ Reads line spelled) := by
  have law : ∀ spelled, (address? line).map Address.spelling = some spelled ↔
      Reads line spelled := by
    intro spelled
    constructor
    · intro found
      obtain ⟨address, here, rfl⟩ := Option.map_eq_some_iff.1 found
      exact reads_of_address? here
    · intro reads
      obtain ⟨address, rfl⟩ := Address.exists_of_isHexadecimal reads.1
      rw [address?_of_reads reads]
      rfl
  refine ⟨law, ?_⟩
  constructor
  · intro nothing spelled reads
    have found := (law spelled).2 reads
    rw [nothing] at found
    simp at found
  · intro outside
    have none : (address? line).map Address.spelling = none :=
      Option.eq_none_iff_forall_ne_some.2 fun spelled found =>
        outside spelled ((law spelled).1 found)
    exact Option.map_eq_none_iff.1 none

end Frame
end Backtrace
