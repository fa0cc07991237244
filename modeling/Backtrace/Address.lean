import Backtrace.Text.Blank

/-!
# Addresses

An address is a hexadecimal literal, `0x` or `0X` with one or more ASCII digits, kept in the
spelling in which it was read. Reading accepts exactly the spellings of addresses.
-/

namespace Backtrace

/-- An ASCII hexadecimal digit of either case. -/
def isHexDigit (character : Char) : Bool :=
  ('0' ≤ character && character ≤ '9') || ('a' ≤ character && character ≤ 'f') ||
    ('A' ≤ character && character ≤ 'F')

namespace Address

/-- The texts that spell an address. -/
def isLiteral : Text → Bool
  | zero :: mark :: digits =>
    zero == '0' && (mark == 'x' || mark == 'X') && !digits.isEmpty && digits.all isHexDigit
  | _ => false

end Address

/-- A hexadecimal address, spelled as it was read. -/
structure Address where
  /-- The characters as they were read. -/
  spelling : Text
  /-- Only a hexadecimal literal spells an address. -/
  literal : Address.isLiteral spelling = true
deriving DecidableEq

namespace Address

/-- The address that a text spells, if it spells one. -/
def parse? (text : Text) : Option Address :=
  if literal : isLiteral text = true then some ⟨text, literal⟩ else none

/-- Reading the spelling of an address gives the address. -/
@[simp] theorem parse?_spelling (address : Address) : parse? address.spelling = some address := by
  simp [parse?, address.literal]

/-- A text is read as an address exactly when it is its spelling. -/
theorem parse?_eq_some_iff {text : Text} {address : Address} :
    parse? text = some address ↔ text = address.spelling := by
  constructor
  · intro parsed
    unfold parse? at parsed
    split at parsed
    · rw [← Option.some.inj parsed]
    · simp at parsed
  · rintro rfl
    exact parse?_spelling address

end Address
end Backtrace
