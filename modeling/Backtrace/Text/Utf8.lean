import Backtrace.Text.Blank

/-!
# UTF-8 text in arbitrary bytes

Bytes are read as a run of pieces. A piece is a character, or an ill-formed maximal subpart: the
longest start of a well-formed sequence that the next byte does not continue, or a single byte
that starts none. A lossy reading shows every ill-formed piece as one replacement character; a
strict reading refuses it. The laws say that the bytes of a text are read as that text and that
a byte below 0x80 always stands for itself, so that pieces never cross a line feed.
-/

namespace Backtrace

/-- A sequence of bytes. -/
abbrev Bytes := List UInt8

/-- The byte that ends a line. -/
def lineFeed : UInt8 := 0x0A

namespace Utf8

/-- The bytes of a text. -/
def encode (text : Text) : Bytes := text.flatMap String.utf8EncodeChar

/-- A text is encoded part by part. -/
theorem encode_append (front back : Text) : encode (front ++ back) = encode front ++ encode back :=
  List.flatMap_append

/-- A sequence whose first bytes have been read and which the next byte has to continue. -/
structure Unfinished where
  /-- The bits read so far, as a number. -/
  bits : Nat
  /-- The least next byte of a well-formed sequence. -/
  least : Nat
  /-- The greatest next byte of a well-formed sequence. -/
  greatest : Nat
  /-- How many bytes follow the next one. -/
  following : Nat
deriving DecidableEq

/-- A piece of the bytes: a character, or nothing for an ill-formed maximal subpart. -/
abbrev Piece := Option Char

/-- What a byte starts: a character by itself, a longer sequence, or an ill-formed piece. The
bounds on the second byte exclude overlong forms, surrogates and numbers above 0x10FFFF. -/
def start (byte : UInt8) : List Piece × Option Unfinished :=
  let value := byte.toNat
  if value < 0x80 then ([some (Char.ofNat value)], none)
  else if value < 0xC2 then ([none], none)
  else if value < 0xE0 then ([], some ⟨value % 0x20, 0x80, 0xBF, 0⟩)
  else if value < 0xF0 then
    ([], some ⟨value % 0x10, if value = 0xE0 then 0xA0 else 0x80,
      if value = 0xED then 0x9F else 0xBF, 1⟩)
  else if value < 0xF5 then
    ([], some ⟨value % 0x08, if value = 0xF0 then 0x90 else 0x80,
      if value = 0xF4 then 0x8F else 0xBF, 2⟩)
  else ([none], none)

/-- What the next byte does to a sequence: it ends it with a character, leaves it unfinished, or
cuts it off as an ill-formed piece and starts anew. -/
def advance (sequence : Unfinished) (byte : UInt8) : List Piece × Option Unfinished :=
  if sequence.least ≤ byte.toNat ∧ byte.toNat ≤ sequence.greatest then
    let bits := sequence.bits * 0x40 + byte.toNat % 0x40
    match sequence.following with
    | 0 => ([some (Char.ofNat bits)], none)
    | following + 1 => ([], some ⟨bits, 0x80, 0xBF, following⟩)
  else (none :: (start byte).1, (start byte).2)

/-- One byte read after an unfinished sequence or after none. -/
def step : Option Unfinished → UInt8 → List Piece × Option Unfinished
  | none, byte => start byte
  | some sequence, byte => advance sequence byte

/-- The piece that an unfinished sequence becomes where the bytes end. -/
def cutOff : Option Unfinished → List Piece
  | none => []
  | some _ => [none]

/-- The pieces of the bytes after an unfinished sequence or after none. -/
def piecesFrom (state : Option Unfinished) : Bytes → List Piece
  | [] => cutOff state
  | byte :: rest => (step state byte).1 ++ piecesFrom (step state byte).2 rest

/-- The pieces of a sequence of bytes. -/
def pieces (bytes : Bytes) : List Piece := piecesFrom none bytes

/-- The character shown for an ill-formed piece. -/
def replacement : Char := '\uFFFD'

/-- The text of arbitrary bytes, with one replacement character for each ill-formed piece. -/
def decodeLossy (bytes : Bytes) : Text := (pieces bytes).map (·.getD replacement)

/-- The text of well-formed bytes; none if any piece is ill-formed. -/
def decode? (bytes : Bytes) : Option Text :=
  if (pieces bytes).all Option.isSome then some ((pieces bytes).filterMap id) else none

/-- A byte below 0x80 cuts off what came before it and stands for itself. -/
theorem step_of_ascii {byte : UInt8} (ascii : byte.toNat < 0x80) (state : Option Unfinished)
    (bounds : ∀ sequence ∈ state, 0x80 ≤ sequence.least) :
    step state byte = (cutOff state ++ [some (Char.ofNat byte.toNat)], none) := by
  have alone : start byte = ([some (Char.ofNat byte.toNat)], none) := by simp [start, ascii]
  cases state with
  | none => simp [step, cutOff, alone]
  | some sequence =>
    have least : 0x80 ≤ sequence.least := bounds sequence rfl
    have outside : ¬ (sequence.least ≤ byte.toNat ∧ byte.toNat ≤ sequence.greatest) := by omega
    simp [step, advance, cutOff, alone, outside]

/-- A sequence left unfinished by a byte takes no byte below 0x80. -/
theorem least_of_step {state : Option Unfinished} {byte : UInt8} {sequence : Unfinished}
    (left : (step state byte).2 = some sequence) : 0x80 ≤ sequence.least := by
  have started : ∀ sequence, (start byte).2 = some sequence → 0x80 ≤ sequence.least := by
    intro sequence left
    unfold start at left
    dsimp only at left
    split at left
    · simp at left
    split at left
    · simp at left
    split at left
    · obtain rfl := Option.some.inj left
      exact Nat.le_refl _
    split at left
    · rw [← Option.some.inj left]
      dsimp only
      split <;> decide
    split at left
    · rw [← Option.some.inj left]
      dsimp only
      split <;> decide
    · simp at left
  cases state with
  | none => exact started sequence left
  | some before =>
    simp only [step, advance] at left
    split at left
    · split at left
      · simp at left
      · obtain rfl := Option.some.inj left
        exact Nat.le_refl _
    · exact started sequence left

/-- Pieces never cross a byte below 0x80: those before it, the character, those after it. -/
theorem piecesFrom_append_ascii {byte : UInt8} (ascii : byte.toNat < 0x80) (rest front : Bytes)
    (state : Option Unfinished) (bounds : ∀ sequence ∈ state, 0x80 ≤ sequence.least) :
    piecesFrom state (front ++ byte :: rest) =
      piecesFrom state front ++ some (Char.ofNat byte.toNat) :: piecesFrom none rest := by
  induction front generalizing state with
  | nil => simp [piecesFrom, step_of_ascii ascii state bounds]
  | cons first others ih =>
    simp only [List.cons_append, piecesFrom, List.append_assoc]
    rw [ih _ fun sequence left => least_of_step (Option.mem_def.1 left)]

/-- A lossy reading splits at every byte below 0x80. -/
theorem decodeLossy_append_ascii {byte : UInt8} (ascii : byte.toNat < 0x80)
    (front rest : Bytes) :
    decodeLossy (front ++ byte :: rest) =
      decodeLossy front ++ Char.ofNat byte.toNat :: decodeLossy rest := by
  unfold decodeLossy pieces
  rw [piecesFrom_append_ascii ascii rest front none (by simp)]
  simp

/-- A byte in the bounds of a sequence that needs no more ends it with a character. -/
theorem piecesFrom_last {sequence : Unfinished} {byte : UInt8} {rest : Bytes}
    (low : sequence.least ≤ byte.toNat) (high : byte.toNat ≤ sequence.greatest)
    (last : sequence.following = 0) :
    piecesFrom (some sequence) (byte :: rest) =
      some (Char.ofNat (sequence.bits * 0x40 + byte.toNat % 0x40)) :: piecesFrom none rest := by
  simp [piecesFrom, step, advance, low, high, last]

/-- A byte in the bounds of a sequence that needs more adds its six bits. -/
theorem piecesFrom_more {sequence : Unfinished} {byte : UInt8} {rest : Bytes} {following : Nat}
    (low : sequence.least ≤ byte.toNat) (high : byte.toNat ≤ sequence.greatest)
    (more : sequence.following = following + 1) :
    piecesFrom (some sequence) (byte :: rest) =
      piecesFrom (some ⟨sequence.bits * 0x40 + byte.toNat % 0x40, 0x80, 0xBF, following⟩) rest := by
  simp [piecesFrom, step, advance, low, high, more]

/-- A byte below 0x80 is a character. -/
theorem start_one {byte : UInt8} (high : byte.toNat < 0x80) :
    start byte = ([some (Char.ofNat byte.toNat)], none) := by
  simp [start, high]

/-- The bytes that start a sequence of two. -/
theorem start_two {byte : UInt8} (low : 0xC2 ≤ byte.toNat) (high : byte.toNat < 0xE0) :
    start byte = ([], some ⟨byte.toNat % 0x20, 0x80, 0xBF, 0⟩) := by
  have first : ¬ byte.toNat < 0x80 := by omega
  have second : ¬ byte.toNat < 0xC2 := by omega
  simp only [start, first, second, high, if_true, if_false]

/-- The bytes that start a sequence of three. -/
theorem start_three {byte : UInt8} (low : 0xE0 ≤ byte.toNat) (high : byte.toNat < 0xF0) :
    start byte = ([], some ⟨byte.toNat % 0x10, if byte.toNat = 0xE0 then 0xA0 else 0x80,
      if byte.toNat = 0xED then 0x9F else 0xBF, 1⟩) := by
  have first : ¬ byte.toNat < 0x80 := by omega
  have second : ¬ byte.toNat < 0xC2 := by omega
  have third : ¬ byte.toNat < 0xE0 := by omega
  simp only [start, first, second, third, high, if_true, if_false]

/-- The bytes that start a sequence of four. -/
theorem start_four {byte : UInt8} (low : 0xF0 ≤ byte.toNat) (high : byte.toNat < 0xF5) :
    start byte = ([], some ⟨byte.toNat % 0x08, if byte.toNat = 0xF0 then 0x90 else 0x80,
      if byte.toNat = 0xF4 then 0x8F else 0xBF, 2⟩) := by
  have first : ¬ byte.toNat < 0x80 := by omega
  have second : ¬ byte.toNat < 0xC2 := by omega
  have third : ¬ byte.toNat < 0xE0 := by omega
  have fourth : ¬ byte.toNat < 0xF0 := by omega
  simp only [start, first, second, third, fourth, high, if_true, if_false]

/-- The bytes of a character are read as that character. -/
theorem piecesFrom_encodeChar (character : Char) (rest : Bytes) :
    piecesFrom none (String.utf8EncodeChar character ++ rest) =
      some character :: piecesFrom none rest := by
  have scalar : character.toNat < 0xD800 ∨ 0xDFFF < character.toNat ∧ character.toNat < 0x110000 :=
    character.valid
  have shown : ∀ value, value = character.toNat → Char.ofNat value = character := by
    rintro value rfl
    exact Char.ofNat_toNat character
  have opened : ∀ (byte : UInt8) (tail : Bytes) (state : Unfinished),
      start byte = ([], some state) →
        piecesFrom none (byte :: tail) = piecesFrom (some state) tail := by
    intro byte tail state started
    simp [piecesFrom, step, started]
  unfold String.utf8EncodeChar
  change piecesFrom none ((if character.toNat ≤ 127 then [UInt8.ofNat character.toNat] else _) ++
    rest) = _
  change piecesFrom none ((if _ then _ else if character.toNat ≤ 2047 then
    [UInt8.ofNat (character.toNat / 64 % 32 + 192), UInt8.ofNat (character.toNat % 64 + 128)]
    else if character.toNat ≤ 65535 then [UInt8.ofNat (character.toNat / 4096 % 16 + 224),
      UInt8.ofNat (character.toNat / 64 % 64 + 128), UInt8.ofNat (character.toNat % 64 + 128)]
    else [UInt8.ofNat (character.toNat / 262144 % 8 + 240),
      UInt8.ofNat (character.toNat / 4096 % 64 + 128),
      UInt8.ofNat (character.toNat / 64 % 64 + 128),
      UInt8.ofNat (character.toNat % 64 + 128)]) ++ rest) = _
  generalize character.toNat = point at scalar shown
  have kept : ∀ value, value < 256 → (UInt8.ofNat value).toNat = value := by
    intro value small
    rw [UInt8.toNat_ofNat']
    exact Nat.mod_eq_of_lt small
  split
  · have byte := kept point (by omega)
    simp only [List.cons_append, List.nil_append, piecesFrom, step,
      start_one (show (UInt8.ofNat point).toNat < 0x80 by omega), byte, shown point rfl]
  split
  · have lead := kept (point / 64 % 32 + 192) (by omega)
    have second := kept (point % 64 + 128) (by omega)
    simp only [List.cons_append, List.nil_append]
    rw [opened _ _ _ (start_two (by omega) (by omega)),
      piecesFrom_last (by dsimp only; omega) (by dsimp only; omega) rfl]
    rw [shown _ (by dsimp only; omega)]
  split
  · have lead := kept (point / 4096 % 16 + 224) (by omega)
    have second := kept (point / 64 % 64 + 128) (by omega)
    have third := kept (point % 64 + 128) (by omega)
    simp only [List.cons_append, List.nil_append]
    rw [opened _ _ _ (start_three (by omega) (by omega)),
      piecesFrom_more (by dsimp only; split <;> omega) (by dsimp only; split <;> omega) rfl,
      piecesFrom_last (by dsimp only; omega) (by dsimp only; omega) rfl]
    rw [shown _ (by dsimp only; omega)]
  · have lead := kept (point / 262144 % 8 + 240) (by omega)
    have second := kept (point / 4096 % 64 + 128) (by omega)
    have third := kept (point / 64 % 64 + 128) (by omega)
    have fourth := kept (point % 64 + 128) (by omega)
    simp only [List.cons_append, List.nil_append]
    rw [opened _ _ _ (start_four (by omega) (by omega)),
      piecesFrom_more (by dsimp only; split <;> omega) (by dsimp only; split <;> omega) rfl,
      piecesFrom_more (by dsimp only; omega) (by dsimp only; omega) rfl,
      piecesFrom_last (by dsimp only; omega) (by dsimp only; omega) rfl]
    rw [shown _ (by dsimp only; omega)]

/-- The bytes of a text are read as its characters. -/
theorem pieces_encode (text : Text) : pieces (encode text) = text.map some := by
  unfold pieces
  induction text with
  | nil => rfl
  | cons first rest ih =>
    rw [encode, List.flatMap_cons, piecesFrom_encodeChar]
    exact congrArg (some first :: ·) ih

/-- The lossy reading of the bytes of a text is the text. -/
@[simp] theorem decodeLossy_encode (text : Text) : decodeLossy (encode text) = text := by
  simp [decodeLossy, pieces_encode, Function.comp_def]

/-- The strict reading of the bytes of a text is the text. -/
@[simp] theorem decode?_encode (text : Text) : decode? (encode text) = some text := by
  simp [decode?, pieces_encode, List.all_map, List.filterMap_map, Function.comp_def]

end Utf8
end Backtrace
