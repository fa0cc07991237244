import Backtrace.Text.Utf8
import Mathlib.Algebra.Group.Nat.Defs
import Mathlib.Data.List.Basic

/-!
# ASCII characters in lossy text

A lossy reading invents no ASCII character: each one in the text is a byte of its own, and the
text before it and after it is the reading of the bytes before and after that byte. The argument
is that a sequence of several bytes, wherever it stands, can only end with a character from 0x80
on.
-/

namespace Backtrace.Utf8

/-- A sequence that no byte below 0x80 continues and that ends with a number from 0x80 on. -/
structure Unfinished.Wide (sequence : Unfinished) : Prop where
  /-- The bounds of the next byte are those of a byte inside a sequence. -/
  bounds : 0x80 ≤ sequence.least ∧ sequence.greatest ≤ 0xBF
  /-- The number is large enough, whatever bytes follow. -/
  reach : 0x80 ≤ (sequence.bits * 0x40 + sequence.least % 0x40) * 0x40 ^ sequence.following

/-- What a byte starts is wide. -/
theorem wide_of_start {byte : UInt8} {sequence : Unfinished}
    (started : (start byte).2 = some sequence) : sequence.Wide := by
  unfold start at started
  dsimp only at started
  split at started
  · simp at started
  split at started
  · simp at started
  split at started
  · obtain rfl := Option.some.inj started
    constructor
    · dsimp only
      decide
    · dsimp only
      omega
  split at started
  · obtain rfl := Option.some.inj started
    constructor
    · dsimp only
      split <;> split <;> decide
    · dsimp only
      split <;> omega
  split at started
  · obtain rfl := Option.some.inj started
    constructor
    · dsimp only
      split <;> split <;> decide
    · dsimp only
      split <;> omega
  · simp at started

/-- A byte in the bounds of a wide sequence adds at least what its least byte adds. -/
theorem reach_of_bounds {sequence : Unfinished} (wide : sequence.Wide) {byte : UInt8}
    (low : sequence.least ≤ byte.toNat) (high : byte.toNat ≤ sequence.greatest) :
    0x80 ≤ (sequence.bits * 0x40 + byte.toNat % 0x40) * 0x40 ^ sequence.following := by
  have bounds := wide.bounds
  have digits : sequence.least % 0x40 ≤ byte.toNat % 0x40 := by omega
  exact Nat.le_trans wide.reach (Nat.mul_le_mul_right _ (Nat.add_le_add_left digits _))

/-- What a byte leaves unfinished after a wide sequence or after none is wide. -/
theorem wide_of_step {state : Option Unfinished} (wide : ∀ sequence ∈ state, sequence.Wide)
    {byte : UInt8} {sequence : Unfinished} (left : (step state byte).2 = some sequence) :
    sequence.Wide := by
  cases state with
  | none => exact wide_of_start left
  | some before =>
    simp only [step, advance] at left
    split at left
    case isTrue within =>
      have enough := reach_of_bounds (wide before rfl) within.1 within.2
      split at left
      · simp at left
      · rename_i following more
        obtain rfl := Option.some.inj left
        rw [more, Nat.pow_succ] at enough
        constructor
        · dsimp only
          decide
        · dsimp only
          grind
    case isFalse => exact wide_of_start left

/-- A number from 0x80 on is no ASCII character; it may be no character at all. -/
theorem ofNat_of_wide {number : Nat} (wide : 0x80 ≤ number) :
    0x80 ≤ (Char.ofNat number).toNat ∨ Char.ofNat number = '\x00' := by
  by_cases valid : number.isValidChar
  · left
    rw [Char.ofNat, dif_pos valid]
    exact wide
  · right
    rw [Char.ofNat, dif_neg valid]
    rfl

/-- An ASCII character among the pieces that a byte starts is that byte. -/
theorem toNat_of_mem_start {byte : UInt8} {character : Char}
    (inside : some character ∈ (start byte).1) : byte.toNat = character.toNat := by
  unfold start at inside
  dsimp only at inside
  split at inside
  · rename_i ascii
    have same : character = Char.ofNat byte.toNat := by simpa using inside
    have valid : byte.toNat.isValidChar := .inl (by omega)
    rw [same, Char.ofNat, dif_pos valid]
    rfl
  repeat' split at inside
  all_goals simp at inside

/-- An ASCII character among the pieces that a byte adds is that byte. -/
theorem toNat_of_mem_step {state : Option Unfinished} (wide : ∀ sequence ∈ state, sequence.Wide)
    {byte : UInt8} {character : Char} (ascii : character.toNat < 0x80)
    (positive : character ≠ '\x00') (inside : some character ∈ (step state byte).1) :
    byte.toNat = character.toNat := by
  cases state with
  | none => exact toNat_of_mem_start inside
  | some before =>
    simp only [step, advance] at inside
    split at inside
    case isTrue within =>
      have enough := reach_of_bounds (wide before rfl) within.1 within.2
      split at inside
      · rename_i last
        rw [last, Nat.pow_zero, Nat.mul_one] at enough
        have same : character =
            Char.ofNat (before.bits * 0x40 + byte.toNat % 0x40) := by simpa using inside
        rcases ofNat_of_wide enough with large | zero
        · rw [← same] at large
          omega
        · exact absurd (same.trans zero) positive
      · simp at inside
    case isFalse =>
      rcases List.mem_cons.1 inside with none | started
      · simp at none
      · exact toNat_of_mem_start started

/-- Pieces split at an ASCII character where the bytes split at its byte. -/
theorem piecesFrom_eq_append {character : Char} (ascii : character.toNat < 0x80)
    (positive : character ≠ '\x00') {bytes : Bytes} {state : Option Unfinished}
    (wide : ∀ sequence ∈ state, sequence.Wide) {front back : List Piece}
    (split : piecesFrom state bytes = front ++ some character :: back) :
    ∃ before byte rest, bytes = before ++ byte :: rest ∧ byte.toNat = character.toNat ∧
      piecesFrom state before = front ∧ piecesFrom none rest = back := by
  induction bytes generalizing state front with
  | nil =>
    have inside : some character ∈ cutOff state := by
      change cutOff state = _ at split
      rw [split]
      simp
    cases state <;> simp [cutOff] at inside
  | cons byte rest ih =>
    have bounds : ∀ sequence ∈ state, 0x80 ≤ sequence.least :=
      fun sequence inside => (wide sequence inside).bounds.1
    have onward : ∀ sequence ∈ (step state byte).2, sequence.Wide :=
      fun sequence left => wide_of_step wide (Option.mem_def.1 left)
    -- The character is among the pieces after this byte unless the byte itself is it.
    have later : ∀ skipped, front = (step state byte).1 ++ skipped →
        piecesFrom (step state byte).2 rest = skipped ++ some character :: back →
        ∃ before byte' rest', byte :: rest = before ++ byte' :: rest' ∧
          byte'.toNat = character.toNat ∧ piecesFrom state before = front ∧
            piecesFrom none rest' = back := by
      intro skipped opening remaining
      obtain ⟨before, found, after, rfl, same, left, right⟩ := ih onward remaining
      exact ⟨byte :: before, found, after, rfl, same, by rw [piecesFrom, left, opening], right⟩
    rw [piecesFrom] at split
    rcases List.append_eq_append_iff.1 split with ⟨skipped, opening, remaining⟩ |
      ⟨inner, opening, remaining⟩
    · exact later skipped opening remaining
    · cases inner with
      | nil => exact later [] (by simpa using opening.symm) (by simpa using remaining.symm)
      | cons piece pieces =>
        obtain ⟨rfl, rfl⟩ := List.cons.inj remaining
        have same := toNat_of_mem_step wide ascii positive (by rw [opening]; simp)
        have shown : Char.ofNat byte.toNat = character := by
          rw [same]
          exact Char.ofNat_toNat character
        have small : byte.toNat < 0x80 := by omega
        have alone := step_of_ascii small state bounds
        rw [shown] at alone
        have absent : some character ∉ cutOff state := by cases state <;> simp [cutOff]
        rw [alone] at opening ⊢
        obtain ⟨rfl, -, rfl⟩ :=
          (List.append_cons_inj_of_notMem absent List.not_mem_nil).1 opening
        exact ⟨[], byte, rest, rfl, same, rfl, rfl⟩

/-- A lossy text splits at an ASCII character where the bytes split at its byte. -/
theorem decodeLossy_eq_append {character : Char} (ascii : character.toNat < 0x80)
    (positive : character ≠ '\x00') {bytes : Bytes} {front back : Text}
    (split : decodeLossy bytes = front ++ character :: back) :
    ∃ before byte rest, bytes = before ++ byte :: rest ∧ byte.toNat = character.toNat ∧
      decodeLossy before = front ∧ decodeLossy rest = back := by
  obtain ⟨opening, others, whole, rfl, remaining⟩ := List.map_eq_append_iff.1 split
  obtain ⟨piece, later, rfl, shown, rfl⟩ := List.map_eq_cons_iff.1 remaining
  have intact : piece = some character := by
    cases piece with
    | none =>
      rw [← shown] at ascii
      exact absurd ascii (by decide)
    | some found => rw [← shown]; rfl
  rw [intact] at whole
  obtain ⟨before, byte, rest, cut, same, left, right⟩ :=
    piecesFrom_eq_append ascii positive (by simp) whole
  exact ⟨before, byte, rest, cut, same, by rw [← left]; rfl, by rw [← right]; rfl⟩

/-- Bytes without the byte of an ASCII character are read as text without the character. -/
theorem not_mem_decodeLossy {character : Char} (ascii : character.toNat < 0x80)
    (positive : character ≠ '\x00') {byte : UInt8} (spelled : byte.toNat = character.toNat)
    {bytes : Bytes} (absent : byte ∉ bytes) : character ∉ decodeLossy bytes := by
  intro inside
  obtain ⟨front, back, split⟩ := List.append_of_mem inside
  obtain ⟨before, found, rest, rfl, same, -, -⟩ := decodeLossy_eq_append ascii positive split
  have equal : found = byte := UInt8.toNat_inj.1 (same.trans spelled.symm)
  exact absent (by simp [equal])

/-- Bytes without a line feed are read as text without one. -/
theorem lineFeed_not_mem_decodeLossy {bytes : Bytes} (absent : 0x0A ∉ bytes) :
    '\n' ∉ decodeLossy bytes :=
  not_mem_decodeLossy (by decide) (by decide) rfl absent

end Backtrace.Utf8
