import Backtrace.Address
import Backtrace.Text.Utf8
import Mathlib.Data.List.Basic

/-!
# The characters of an address

The spelling of an address is `0x` or `0X` and digits, and nothing else. Its characters all lie
between the digit zero and the end of ASCII, so none of them is blank and each is one byte.
-/

namespace Backtrace

/-- A hexadecimal digit lies between the digit zero and the letter `f`. -/
theorem toNat_of_isHexDigit {character : Char} (digit : isHexDigit character = true) :
    0x30 ≤ character.toNat ∧ character.toNat ≤ 0x66 := by
  simp only [isHexDigit, Bool.or_eq_true, Bool.and_eq_true, decide_eq_true_eq, Char.le_def,
    UInt32.le_iff_toNat_le] at digit
  change (0x30 ≤ character.toNat ∧ character.toNat ≤ 0x39 ∨
    0x61 ≤ character.toNat ∧ character.toNat ≤ 0x66) ∨
    0x41 ≤ character.toNat ∧ character.toNat ≤ 0x46 at digit
  omega

namespace Address

variable (address : Address)

/-- An address is spelled with a zero, a mark and digits. -/
theorem exists_spelling : ∃ mark digits, address.spelling = '0' :: mark :: digits ∧
    (mark = 'x' ∨ mark = 'X') ∧ digits ≠ [] ∧ ∀ digit ∈ digits, isHexDigit digit = true := by
  have literal := address.literal
  unfold isLiteral at literal
  split at literal
  · rename_i zero mark digits same
    simp only [Bool.and_eq_true, Bool.or_eq_true, beq_iff_eq, Bool.not_eq_true',
      List.isEmpty_eq_false_iff, List.all_eq_true] at literal
    obtain ⟨⟨⟨rfl, marked⟩, nonempty⟩, hexadecimal⟩ := literal
    exact ⟨mark, digits, same, marked, nonempty, hexadecimal⟩
  · simp at literal

/-- An address is spelled between the digit zero and the letter `x`. -/
theorem toNat_of_mem_spelling {character : Char} (inside : character ∈ address.spelling) :
    0x30 ≤ character.toNat ∧ character.toNat ≤ 0x78 := by
  obtain ⟨mark, digits, spelled, marked, -, hexadecimal⟩ := address.exists_spelling
  rw [spelled, List.mem_cons, List.mem_cons] at inside
  rcases inside with rfl | rfl | inside
  · decide
  · rcases marked with rfl | rfl <;> decide
  · have bounds := toNat_of_isHexDigit (hexadecimal character inside)
    omega

/-- No character of an address is blank. -/
theorem unbroken_spelling : Text.Unbroken address.spelling := by
  intro character inside
  have bounds := address.toNat_of_mem_spelling inside
  simp [Text.isBlank]
  omega

/-- The spelling of an address is not empty. -/
theorem spelling_ne_nil : address.spelling ≠ [] := by
  obtain ⟨mark, digits, spelled, -⟩ := address.exists_spelling
  simp [spelled]

/-- Each character of an address is one byte. -/
theorem encode_spelling : Utf8.encode address.spelling =
    address.spelling.map fun character => UInt8.ofNat character.toNat := by
  rw [Utf8.encode, List.map_eq_flatMap]
  refine List.flatMap_congr fun character inside => ?_
  have small : character.val.toNat ≤ 127 :=
    Nat.le_trans (address.toNat_of_mem_spelling inside).2 (by decide)
  rw [String.utf8EncodeChar.eq_1, if_pos small]
  rfl

/-- Every byte of an address lies between those of the digit zero and the letter `x`. -/
theorem toNat_of_mem_encode {byte : UInt8} (inside : byte ∈ Utf8.encode address.spelling) :
    0x30 ≤ byte.toNat ∧ byte.toNat ≤ 0x78 := by
  rw [encode_spelling] at inside
  obtain ⟨character, spelled, rfl⟩ := List.mem_map.1 inside
  have bounds := address.toNat_of_mem_spelling spelled
  rw [UInt8.toNat_ofNat', Nat.mod_eq_of_lt (by omega)]
  exact bounds

end Address
end Backtrace
