import Backtrace.Proofs.Text.Ascii

/-!
# Characters in lossy text

Bytes are read piece by piece, and a piece that is a character is read from exactly the bytes
that encode it. A text that is part of what was read therefore stands in the bytes as its own
encoding, provided that it holds no replacement character, which may stand for ill-formed bytes.
In the other direction, the encoding of a text after any bytes is read as that text, however
those bytes end.
-/

namespace Backtrace.Utf8

/-- The bytes that end an unfinished sequence, and the character that it becomes. -/
inductive Completes : Unfinished → Bytes → Char → Prop where
  /-- One byte in the bounds ends a sequence that needs no more. -/
  | last {sequence : Unfinished} {byte : UInt8} (low : sequence.least ≤ byte.toNat)
      (high : byte.toNat ≤ sequence.greatest) (final : sequence.following = 0) :
      Completes sequence [byte] (Char.ofNat (sequence.bits * 0x40 + byte.toNat % 0x40))
  /-- A byte in the bounds goes on with a sequence that needs more. -/
  | more {sequence : Unfinished} {byte : UInt8} {rest : Bytes} {character : Char}
      {following : Nat} (low : sequence.least ≤ byte.toNat)
      (high : byte.toNat ≤ sequence.greatest) (unfinished : sequence.following = following + 1)
      (later : Completes ⟨sequence.bits * 0x40 + byte.toNat % 0x40, 0x80, 0xBF, following⟩ rest
        character) : Completes sequence (byte :: rest) character

/-- The number of a valid character is that of the character. -/
theorem toNat_ofNat {number : Nat} (valid : number.isValidChar) :
    (Char.ofNat number).val.toNat = number := by
  rw [Char.ofNat, dif_pos valid]
  rfl

/-- A byte is the number that it is made from. -/
theorem ofNat_eq_of_toNat (byte : UInt8) {number : Nat} (same : number = byte.toNat) :
    UInt8.ofNat number = byte := by
  rw [same]
  exact UInt8.ofNat_toNat

/-- Two bytes in their bounds encode the character that they are read as. -/
theorem encodeChar_two {first second : UInt8} (low : 0xC2 ≤ first.toNat)
    (high : first.toNat < 0xE0) (inside : 0x80 ≤ second.toNat ∧ second.toNat ≤ 0xBF) :
    String.utf8EncodeChar (Char.ofNat (first.toNat % 0x20 * 0x40 + second.toNat % 0x40)) =
      [first, second] := by
  have valid : (first.toNat % 0x20 * 0x40 + second.toNat % 0x40).isValidChar := .inl (by omega)
  rw [String.utf8EncodeChar.eq_1, toNat_ofNat valid, if_neg (by omega), if_pos (by omega),
    ofNat_eq_of_toNat first (by omega), ofNat_eq_of_toNat second (by omega)]

/-- Three bytes in their bounds encode the character that they are read as. -/
theorem encodeChar_three {first second third : UInt8} (low : 0xE0 ≤ first.toNat)
    (high : first.toNat < 0xF0)
    (least : (if first.toNat = 0xE0 then 0xA0 else 0x80) ≤ second.toNat)
    (greatest : second.toNat ≤ if first.toNat = 0xED then 0x9F else 0xBF)
    (inside : 0x80 ≤ third.toNat ∧ third.toNat ≤ 0xBF) :
    String.utf8EncodeChar (Char.ofNat ((first.toNat % 0x10 * 0x40 + second.toNat % 0x40) * 0x40 +
      third.toNat % 0x40)) = [first, second, third] := by
  have bounds : 0x80 ≤ second.toNat ∧ second.toNat ≤ 0xBF ∧
      (first.toNat = 0xE0 → 0xA0 ≤ second.toNat) ∧
      (first.toNat = 0xED → second.toNat ≤ 0x9F) := by
    split at least <;> split at greatest <;> omega
  have valid : ((first.toNat % 0x10 * 0x40 + second.toNat % 0x40) * 0x40 +
      third.toNat % 0x40).isValidChar := by
    unfold Nat.isValidChar
    omega
  rw [String.utf8EncodeChar.eq_1, toNat_ofNat valid, if_neg (by omega), if_neg (by omega),
    if_pos (by omega), ofNat_eq_of_toNat first (by omega),
    ofNat_eq_of_toNat second (by omega), ofNat_eq_of_toNat third (by omega)]

/-- Four bytes in their bounds encode the character that they are read as. -/
theorem encodeChar_four {first second third fourth : UInt8} (low : 0xF0 ≤ first.toNat)
    (high : first.toNat < 0xF5)
    (least : (if first.toNat = 0xF0 then 0x90 else 0x80) ≤ second.toNat)
    (greatest : second.toNat ≤ if first.toNat = 0xF4 then 0x8F else 0xBF)
    (inside : 0x80 ≤ third.toNat ∧ third.toNat ≤ 0xBF)
    (final : 0x80 ≤ fourth.toNat ∧ fourth.toNat ≤ 0xBF) :
    String.utf8EncodeChar (Char.ofNat (((first.toNat % 0x08 * 0x40 + second.toNat % 0x40) * 0x40 +
      third.toNat % 0x40) * 0x40 + fourth.toNat % 0x40)) = [first, second, third, fourth] := by
  have bounds : 0x80 ≤ second.toNat ∧ second.toNat ≤ 0xBF ∧
      (first.toNat = 0xF0 → 0x90 ≤ second.toNat) ∧
      (first.toNat = 0xF4 → second.toNat ≤ 0x8F) := by
    split at least <;> split at greatest <;> omega
  have valid : (((first.toNat % 0x08 * 0x40 + second.toNat % 0x40) * 0x40 +
      third.toNat % 0x40) * 0x40 + fourth.toNat % 0x40).isValidChar := by
    unfold Nat.isValidChar
    omega
  rw [String.utf8EncodeChar.eq_1, toNat_ofNat valid, if_neg (by omega), if_neg (by omega),
    if_neg (by omega), ofNat_eq_of_toNat first (by omega),
    ofNat_eq_of_toNat second (by omega), ofNat_eq_of_toNat third (by omega),
    ofNat_eq_of_toNat fourth (by omega)]

/-- The bytes of a sequence that is completed are those of its character. -/
theorem encodeChar_of_completes {byte : UInt8} {sequence : Unfinished} {rest : Bytes}
    {character : Char} (started : (start byte).2 = some sequence)
    (completed : Completes sequence rest character) :
    String.utf8EncodeChar character = byte :: rest := by
  unfold start at started
  dsimp only at started
  split at started
  · simp at started
  split at started
  · simp at started
  split at started
  · obtain rfl := Option.some.inj started
    cases completed with
    | last low high final => exact encodeChar_two (by omega) (by omega) ⟨low, high⟩
    | more low high unfinished later => simp at unfinished
  split at started
  · obtain rfl := Option.some.inj started
    cases completed with
    | last low high final => simp at final
    | more low high unfinished later =>
      cases unfinished
      cases later with
      | last below above final =>
        exact encodeChar_three (by omega) (by omega) low high ⟨below, above⟩
      | more below above unfinished later => simp at unfinished
  split at started
  · obtain rfl := Option.some.inj started
    cases completed with
    | last low high final => simp at final
    | more low high unfinished later =>
      cases unfinished
      cases later with
      | last below above final => simp at final
      | more below above unfinished later =>
        cases unfinished
        cases later with
        | last least greatest final =>
          exact encodeChar_four (by omega) (by omega) low high ⟨below, above⟩ ⟨least, greatest⟩
        | more least greatest unfinished later => simp at unfinished
  · simp at started

/-- The bytes that complete a sequence are read as its character, whatever follows them. -/
theorem piecesFrom_of_completes {sequence : Unfinished} {tail : Bytes} {character : Char}
    (completed : Completes sequence tail character) (later : Bytes) :
    piecesFrom (some sequence) (tail ++ later) = some character :: pieces later := by
  induction completed with
  | last low high final => exact piecesFrom_last low high final
  | more low high unfinished _ ih =>
    rw [List.cons_append, piecesFrom_more low high unfinished, ih]

/-- An unfinished sequence is completed, or is cut off after some bytes. It is cut off there
wherever the bytes after these end. -/
theorem completes_or_cutOff (sequence : Unfinished) (bytes : Bytes) :
    (∃ tail rest character, bytes = tail ++ rest ∧ Completes sequence tail character) ∨
      ∃ tail rest, bytes = tail ++ rest ∧
        ∀ part, part <+: rest →
          piecesFrom (some sequence) (tail ++ part) = none :: pieces part := by
  induction bytes generalizing sequence with
  | nil =>
    refine .inr ⟨[], [], rfl, ?_⟩
    intro part within
    rw [List.prefix_nil.1 within]
    rfl
  | cons byte others ih =>
    by_cases within : sequence.least ≤ byte.toNat ∧ byte.toNat ≤ sequence.greatest
    · obtain ⟨low, high⟩ := within
      cases needed : sequence.following with
      | zero => exact .inl ⟨[byte], others, _, rfl, .last low high needed⟩
      | succ following =>
        rcases ih ⟨_, _, _, following⟩ with ⟨tail, rest, character, rfl, later⟩ |
          ⟨tail, rest, rfl, cut⟩
        · exact .inl ⟨byte :: tail, rest, character, rfl, .more low high needed later⟩
        · refine .inr ⟨byte :: tail, rest, rfl, ?_⟩
          intro part extent
          rw [List.cons_append, piecesFrom_more low high needed, cut part extent]
    · refine .inr ⟨[], byte :: others, rfl, ?_⟩
      intro part extent
      cases part with
      | nil => rfl
      | cons first more =>
        obtain ⟨rfl, -⟩ := List.cons_prefix_cons.1 extent
        simp [piecesFrom, pieces, step, advance, within]

/-- A byte is a piece by itself or starts a sequence. -/
theorem start_alone_or_unfinished (byte : UInt8) :
    (∃ piece, start byte = ([piece], none) ∧
      ∀ character, piece = some character → [byte] = String.utf8EncodeChar character) ∨
      ∃ sequence, start byte = ([], some sequence) := by
  unfold start
  dsimp only
  split
  · rename_i ascii
    refine .inl ⟨_, rfl, ?_⟩
    intro character same
    have valid : byte.toNat.isValidChar := .inl (by omega)
    rw [← Option.some.inj same, String.utf8EncodeChar.eq_1, toNat_ofNat valid,
      if_pos (by omega), ofNat_eq_of_toNat byte rfl]
  repeat' split
  all_goals simp

/-- The first piece of some bytes is read from the first of them, which encode it if it is a
character, and it is the first piece wherever the other bytes end. -/
theorem exists_first_piece {bytes : Bytes} (nonempty : bytes ≠ []) :
    ∃ chunk rest piece, bytes = chunk ++ rest ∧ chunk ≠ [] ∧
      (∀ character, piece = some character → chunk = String.utf8EncodeChar character) ∧
      ∀ part, part <+: rest → pieces (chunk ++ part) = piece :: pieces part := by
  obtain ⟨byte, others, rfl⟩ := List.exists_cons_of_ne_nil nonempty
  rcases start_alone_or_unfinished byte with ⟨piece, started, alone⟩ | ⟨sequence, started⟩
  · refine ⟨[byte], others, piece, rfl, by simp, alone, ?_⟩
    intro part _
    simp [pieces, piecesFrom, step, started]
  · have onward : ∀ more, pieces (byte :: more) = piecesFrom (some sequence) more := by
      intro more
      simp [pieces, piecesFrom, step, started]
    rcases completes_or_cutOff sequence others with ⟨tail, rest, character, rfl, completed⟩ |
      ⟨tail, rest, rfl, cut⟩
    · refine ⟨byte :: tail, rest, some character, rfl, by simp, ?_, ?_⟩
      · intro other same
        rw [← Option.some.inj same]
        exact (encodeChar_of_completes (by rw [started]) completed).symm
      · intro part _
        rw [List.cons_append, onward, piecesFrom_of_completes completed]
    · refine ⟨byte :: tail, rest, none, rfl, by simp, by simp, ?_⟩
      intro part within
      rw [List.cons_append, onward, cut part within]

/-- Bytes are read as something. -/
theorem decodeLossy_ne_nil {bytes : Bytes} (nonempty : bytes ≠ []) : decodeLossy bytes ≠ [] := by
  obtain ⟨chunk, rest, piece, rfl, -, -, read⟩ := exists_first_piece nonempty
  have first : pieces (chunk ++ rest) = piece :: pieces rest := read rest List.prefix_rfl
  simp [decodeLossy, first]

/-- Bytes split where the pieces read from them are split. -/
theorem exists_append_of_pieces {bytes : Bytes} {front back : List Piece}
    (split : pieces bytes = front ++ back) :
    ∃ before after, bytes = before ++ after ∧ pieces before = front ∧ pieces after = back := by
  induction front generalizing bytes with
  | nil => exact ⟨[], bytes, rfl, rfl, split⟩
  | cons first others ih =>
    have nonempty : bytes ≠ [] := by
      rintro rfl
      simp [pieces, piecesFrom, cutOff] at split
    obtain ⟨chunk, rest, piece, rfl, -, -, read⟩ := exists_first_piece nonempty
    rw [read rest List.prefix_rfl, List.cons_append] at split
    obtain ⟨rfl, remaining⟩ := List.cons.inj split
    obtain ⟨before, after, rfl, left, right⟩ := ih remaining
    refine ⟨chunk ++ before, after, by simp, ?_, right⟩
    rw [read before (List.prefix_append before after), left]

/-- Bytes that are read as characters only are the encoding of these. -/
theorem eq_encode_of_pieces {bytes : Bytes} {text : Text}
    (read : pieces bytes = text.map some) : bytes = encode text := by
  induction text generalizing bytes with
  | nil =>
    refine Decidable.byContradiction fun nonempty => ?_
    obtain ⟨chunk, rest, piece, rfl, -, -, first⟩ := exists_first_piece nonempty
    simp [first rest List.prefix_rfl] at read
  | cons character others ih =>
    have nonempty : bytes ≠ [] := by
      rintro rfl
      simp [pieces, piecesFrom, cutOff] at read
    obtain ⟨chunk, rest, piece, rfl, -, encoded, first⟩ := exists_first_piece nonempty
    rw [first rest List.prefix_rfl, List.map_cons] at read
    obtain ⟨same, remaining⟩ := List.cons.inj read
    rw [encoded character same, ih remaining]
    rfl

/-- Pieces that are all characters are nothing but these characters. -/
theorem eq_map_some_of_intact {found : List Piece} (intact : ∀ piece ∈ found, piece.isSome) :
    found = (found.filterMap id).map some := by
  induction found with
  | nil => rfl
  | cons piece later ih =>
    obtain ⟨character, rfl⟩ := Option.isSome_iff_exists.1 (intact piece List.mem_cons_self)
    have rest := ih fun other inside => intact other (List.mem_cons_of_mem _ inside)
    exact congrArg (some character :: ·) rest

/-- A strict reading gives a text exactly for the bytes that encode it. -/
theorem decode?_eq_some_iff {bytes : Bytes} {text : Text} :
    decode? bytes = some text ↔ bytes = encode text := by
  constructor
  · intro read
    obtain ⟨intact, same⟩ := Option.ite_none_right_eq_some.1 read
    apply eq_encode_of_pieces
    rw [← Option.some.inj same]
    exact eq_map_some_of_intact (List.all_eq_true.1 intact)
  · rintro rfl
    exact decode?_encode text

/-- A lossy text without replacement characters was read from its own encoding. -/
theorem eq_encode_of_decodeLossy {bytes : Bytes} (intact : replacement ∉ decodeLossy bytes) :
    bytes = encode (decodeLossy bytes) := by
  apply eq_encode_of_pieces
  have whole : ∀ piece ∈ pieces bytes, some (piece.getD replacement) = piece := by
    intro piece inside
    cases piece with
    | none => exact absurd (List.mem_map_of_mem inside) intact
    | some character => rfl
  calc
    pieces bytes = (pieces bytes).map id := (List.map_id _).symm
    _ = (pieces bytes).map fun piece => some (piece.getD replacement) :=
      List.map_congr_left fun piece inside => (whole piece inside).symm
    _ = (decodeLossy bytes).map some := by rw [decodeLossy, List.map_map]; rfl

/-- Bytes split where the lossy text read from them is split. -/
theorem exists_append_of_decodeLossy {bytes : Bytes} {front back : Text}
    (split : decodeLossy bytes = front ++ back) :
    ∃ before after, bytes = before ++ after ∧ decodeLossy before = front ∧
      decodeLossy after = back := by
  obtain ⟨left, right, whole, rfl, rfl⟩ := List.map_eq_append_iff.1 split
  obtain ⟨before, after, rfl, rfl, rfl⟩ := exists_append_of_pieces whole
  exact ⟨before, after, rfl, rfl, rfl⟩

/-- A byte that goes on with no sequence cuts off what came before it. -/
theorem piecesFrom_append_cons {byte : UInt8} (lead : byte.toNat < 0x80 ∨ 0xBF < byte.toNat)
    (rest front : Bytes) {state : Option Unfinished} (wide : ∀ sequence ∈ state, sequence.Wide) :
    piecesFrom state (front ++ byte :: rest) =
      piecesFrom state front ++ piecesFrom none (byte :: rest) := by
  induction front generalizing state with
  | nil =>
    cases state with
    | none => rfl
    | some sequence =>
      have bounds := (wide sequence rfl).bounds
      have outside : ¬ (sequence.least ≤ byte.toNat ∧ byte.toNat ≤ sequence.greatest) := by omega
      simp [piecesFrom, step, advance, cutOff, outside]
  | cons first others ih =>
    have onward : ∀ sequence ∈ (step state first).2, sequence.Wide :=
      fun sequence left => wide_of_step wide (Option.mem_def.1 left)
    simp only [List.cons_append, piecesFrom, List.append_assoc]
    rw [ih onward]
    rfl

/-- The encoding of a character starts with a byte that goes on with no sequence. -/
theorem exists_encodeChar_cons (character : Char) :
    ∃ byte rest, String.utf8EncodeChar character = byte :: rest ∧
      (byte.toNat < 0x80 ∨ 0xBF < byte.toNat) := by
  rw [String.utf8EncodeChar.eq_1]
  generalize character.val.toNat = point
  split
  · refine ⟨_, _, rfl, .inl ?_⟩
    rw [UInt8.toNat_ofNat']
    omega
  repeat' split
  all_goals
    refine ⟨_, _, rfl, .inr ?_⟩
    rw [UInt8.toNat_ofNat']
    omega

/-- Bytes before the encoding of a text are read by themselves, however they end. -/
theorem pieces_append_encode (bytes : Bytes) (text : Text) :
    pieces (bytes ++ encode text) = pieces bytes ++ text.map some := by
  cases text with
  | nil => simp [encode]
  | cons character others =>
    obtain ⟨byte, rest, encoded, lead⟩ := exists_encodeChar_cons character
    have whole : encode (character :: others) = byte :: (rest ++ encode others) := by
      rw [encode, List.flatMap_cons, encoded]
      rfl
    rw [← pieces_encode, whole]
    exact piecesFrom_append_cons lead _ _ (by simp)

/-- The encoding of a text after any bytes is read as the text. -/
theorem decodeLossy_append_encode (bytes : Bytes) (text : Text) :
    decodeLossy (bytes ++ encode text) = decodeLossy bytes ++ text := by
  simp [decodeLossy, pieces_append_encode, Function.comp_def]

/-- The encoding of a text before any bytes is read as the text. -/
theorem pieces_encode_append (text : Text) (bytes : Bytes) :
    pieces (encode text ++ bytes) = text.map some ++ pieces bytes := by
  induction text with
  | nil => rfl
  | cons first rest ih =>
    rw [encode, List.flatMap_cons, List.append_assoc, pieces, piecesFrom_encodeChar]
    exact congrArg (some first :: ·) ih

end Backtrace.Utf8
