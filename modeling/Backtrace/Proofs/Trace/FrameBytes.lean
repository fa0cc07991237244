import Backtrace.Proofs.Frame.Shape
import Backtrace.Proofs.Text.Characters
import Backtrace.Proofs.Trace.Frames

/-!
# Frames in the bytes of a line

A line is read lossily before it is looked at, so its text may differ from its bytes. The address
of a frame does not: it stands in the line byte for byte, and what stands after the first word
is well formed. Ill-formed bytes can only be part of the first word of a line that gives its
link-time address, and there they do no harm.
-/

namespace Backtrace

namespace Text

/-- A replacement character is not blank. -/
theorem replacement_not_mem_of_allBlank {blanks : Text} (blank : AllBlank blanks) :
    Utf8.replacement ∉ blanks :=
  fun inside => absurd (blank _ inside) (by decide)

end Text

namespace Frame

open Utf8

/-- No character of an address stands for ill-formed bytes. -/
theorem replacement_not_mem_spelling (address : Address) : replacement ∉ address.spelling := by
  intro inside
  have bounds := (address.toNat_of_mem_spelling inside).2
  exact absurd bounds (by decide)

/-- No character of a link part stands for ill-formed bytes. -/
theorem replacement_not_mem_of_isLinkPart {address : Address} {part : Text}
    (link : IsLinkPart address part) : replacement ∉ part := by
  obtain ⟨before, after, rfl, -, leading, trailing⟩ := link
  have first := Text.replacement_not_mem_of_allBlank leading
  have spelled := replacement_not_mem_spelling address
  have last := Text.replacement_not_mem_of_allBlank trailing
  have left : replacement ≠ '(' := by decide
  have right : replacement ≠ ')' := by decide
  simp [first, spelled, last, left, right]

/-- The bytes of a line that holds the address alone: a blank, the address, and blanks. -/
def IsAlone (address : Address) (line : Bytes) : Prop :=
  ∃ blanks, line = 0x20 :: (encode address.spelling ++ encode blanks) ∧ Text.AllBlank blanks

/-- The bytes of a line with a link-time address, in two parts: any bytes that open as a frame
does, and the encoding of a link part. -/
def IsLinked (address : Address) (front back : Bytes) : Prop :=
  encode opening <+: front ∧ ∃ part, back = encode part ∧ IsLinkPart address part

/-- The blank at the start of a text is one byte. -/
theorem encode_cons_blank (text : Text) : encode (' ' :: text) = 0x20 :: encode text := rfl

/-- The bytes of a frame line hold the address alone, or they are any bytes read as a blank and a
word and then a link part. -/
theorem isAlone_or_isLinked {address : Address} {line : Bytes}
    (found : address? (decodeLossy line) = some address) :
    IsAlone address line ∨ ∃ front back word, line = front ++ back ∧
      IsLinked address front back ∧ decodeLossy front = ' ' :: word ∧ Text.Unbroken word := by
  rcases shape_of_address? found with ⟨blanks, text, blank⟩ |
    ⟨word, part, text, starts, unbroken, link⟩
  · have intact : replacement ∉ decodeLossy line := by
      have spelled := replacement_not_mem_spelling address
      have last := Text.replacement_not_mem_of_allBlank blank
      have first : replacement ≠ ' ' := by decide
      simp [text, first, spelled, last]
    refine .inl ⟨blanks, ?_, blank⟩
    rw [eq_encode_of_decodeLossy intact, text, encode_cons_blank, encode_append]
  · rw [← List.cons_append] at text
    obtain ⟨front, back, rfl, read, rest⟩ := exists_append_of_decodeLossy text
    obtain ⟨more, rfl⟩ := starts
    have opened : decodeLossy front = opening ++ more := read
    obtain ⟨opens, after, rfl, marked, -⟩ := exists_append_of_decodeLossy opened
    have intact : replacement ∉ decodeLossy back := by
      rw [rest]
      exact replacement_not_mem_of_isLinkPart link
    have ascii : replacement ∉ decodeLossy opens := by
      rw [marked]
      decide
    refine .inr ⟨opens ++ after, back, _, rfl, ⟨?_, part, ?_, link⟩, read, unbroken⟩
    · rw [eq_encode_of_decodeLossy ascii, marked]
      exact List.prefix_append _ _
    · rw [eq_encode_of_decodeLossy intact, rest]

/-- Any bytes that open as a frame does and are read as a blank and a word are, with a link part
after them, a frame line. -/
theorem address?_of_isLinked {address : Address} {front back : Bytes}
    (linked : IsLinked address front back)
    (unbroken : Text.Unbroken (decodeLossy front).tail) :
    address? (decodeLossy (front ++ back)) = some address := by
  obtain ⟨⟨after, rfl⟩, part, rfl, link⟩ := linked
  have read : decodeLossy (encode opening ++ after) = ' ' :: (mark ++ decodeLossy after) := by
    rw [decodeLossy, pieces_encode_append]
    rfl
  rw [decodeLossy_append_encode, read, List.cons_append]
  rw [read, List.tail_cons] at unbroken
  exact address?_of_linked (List.prefix_append mark _) unbroken link

/-- The bytes of the address stand in a row in the bytes of a line that holds it alone. -/
theorem spelling_infix_of_isAlone {address : Address} {line : Bytes}
    (alone : IsAlone address line) : encode address.spelling <:+: line := by
  obtain ⟨blanks, rfl, -⟩ := alone
  exact ⟨[0x20], encode blanks, rfl⟩

/-- The bytes of the address stand in a row in the bytes of a link part. -/
theorem spelling_infix_of_isLinkPart {address : Address} {part : Text}
    (link : IsLinkPart address part) : encode address.spelling <:+: encode part := by
  obtain ⟨before, after, rfl, -⟩ := link
  refine ⟨encode (before ++ ['(']), encode (')' :: after), ?_⟩
  rw [← encode_append, ← encode_append]
  simp

/-- A line that holds the address alone is well formed. -/
theorem isSome_decode?_of_isAlone {address : Address} {line : Bytes}
    (alone : IsAlone address line) : (decode? line).isSome := by
  obtain ⟨blanks, rfl, -⟩ := alone
  rw [← encode_append, ← encode_cons_blank, decode?_encode]
  rfl

/-- Ill-formed bytes of a frame line all stand in its first word, and its second word is the
address in parentheses. -/
theorem exists_ill_formed_word {address : Address} {front back : Bytes} {word : Text}
    (linked : IsLinked address front back) (read : decodeLossy front = ' ' :: word)
    (unbroken : Text.Unbroken word) :
    ∃ token part, front ++ back = 0x20 :: (token ++ encode part) ∧ IsLinkPart address part ∧
      pieces (front ++ back) = some ' ' :: (pieces token ++ part.map some) ∧
      Text.words (decodeLossy (front ++ back)) =
        [decodeLossy token, '(' :: (address.spelling ++ [')'])] := by
  obtain ⟨⟨after, rfl⟩, part, rfl, link⟩ := linked
  have opened : encode opening ++ after = 0x20 :: (encode mark ++ after) := rfl
  have split : pieces (encode opening ++ after) = some ' ' :: pieces (encode mark ++ after) := by
    rw [pieces_encode_append, pieces_encode_append]
    rfl
  have token : decodeLossy (encode mark ++ after) = word := by
    rw [decodeLossy, split, List.map_cons] at read
    exact (List.cons.inj read).2
  have nonempty : word ≠ [] := by
    rw [← token, decodeLossy, pieces_encode_append]
    simp [mark]
  refine ⟨encode mark ++ after, part, ?_, link, ?_, ?_⟩
  · rw [opened, List.cons_append]
  · rw [pieces_append_encode, split, List.cons_append]
  · rw [decodeLossy_append_encode, read, token, List.cons_append,
      Text.words_cons_blank (by decide),
      Text.words_append_isolated nonempty unbroken (isolated_of_isLinkPart link),
      words_of_isLinkPart link]

end Frame

namespace FrameStream

open Trace LineMachine

/-- The address of a frame stands in the bytes of its line. A line is ill formed in its first
word alone, and then its second word is the address in parentheses; conversely every such line is
a frame, whatever is ill formed in its first word. -/
theorem frames_in_bytes (input : List ReadEvent) :
    let stream := ofInput input
    let completed := (scan [] input).completed
    (∀ number address, (number, address) ∈ stream.frames →
      ∃ line, 1 ≤ number ∧ completed[number - 1]? = some line ∧
        (Frame.IsAlone address line ∧ (Utf8.decode? line).isSome ∨
          ∃ front back, line = front ++ back ∧ Frame.IsLinked address front back) ∧
        Utf8.encode address.spelling <:+: line ∧
        (Utf8.decode? line = none → ∃ token part, line = 0x20 :: (token ++ Utf8.encode part) ∧
          Frame.IsLinkPart address part ∧
          Utf8.pieces line = some ' ' :: (Utf8.pieces token ++ part.map some) ∧
          Text.words (Utf8.decodeLossy line) =
            [Utf8.decodeLossy token, '(' :: (address.spelling ++ [')'])])) ∧
      ∀ index address front back, completed[index]? = some (front ++ back) →
        Frame.IsLinked address front back →
        Text.Unbroken (Utf8.decodeLossy front).tail → (index + 1, address) ∈ stream.frames := by
  refine ⟨?_, ?_⟩
  · intro number address inside
    obtain ⟨line, positive, here, found⟩ := mem_frames_iff.1 inside
    refine ⟨line, positive, here, ?_⟩
    rcases Frame.isAlone_or_isLinked found with
      alone | ⟨front, back, word, rfl, linked, read, clear⟩
    · have formed := Frame.isSome_decode?_of_isAlone alone
      refine ⟨.inl ⟨alone, formed⟩, Frame.spelling_infix_of_isAlone alone, ?_⟩
      intro ill
      simp [ill] at formed
    · have spelled : Utf8.encode address.spelling <:+: back := by
        obtain ⟨-, part, rfl, link⟩ := linked
        exact Frame.spelling_infix_of_isLinkPart link
      exact ⟨.inr ⟨front, back, rfl, linked⟩, spelled.trans (List.suffix_append front back).isInfix,
        fun _ => Frame.exists_ill_formed_word linked read clear⟩
  · intro index address front back here linked clear
    exact mem_frames_iff.2
      ⟨front ++ back, Nat.le_add_left 1 index, here, Frame.address?_of_isLinked linked clear⟩

/-- A line whose first word ends inside a character and whose blanks are of three bytes each. -/
theorem frames_in_bytes_cut :
    let front : Bytes := [0x20, 0x30, 0x78, 0x41, 0xE2, 0x80]
    let back : Bytes := [0xE2, 0x80, 0x83, 0x28, 0x30, 0x58, 0x31, 0x66, 0x29, 0xE3, 0x80, 0x80,
      0x0D, 0x0A]
    let input : List ReadEvent := [.bytes front, .retry, .bytes back]
    let address : Address := ⟨['0', 'X', '1', 'f'], rfl⟩
    (scan [] input).completed[0]? = some (front ++ back) ∧ Frame.IsLinked address front back ∧
      Text.Unbroken (Utf8.decodeLossy front).tail ∧ (1, address) ∈ (ofInput input).frames ∧
      Utf8.decode? (front ++ back) = none ∧
      ∃ token part, front ++ back = 0x20 :: (token ++ Utf8.encode part) ∧
        Frame.IsLinkPart address part := by
  intro front back input address
  obtain ⟨forward, backward⟩ := frames_in_bytes input
  have completed : (scan [] input).completed[0]? = some (front ++ back) := by decide
  have linked : Frame.IsLinked address front back :=
    ⟨by decide, "\u2003(0X1f)\u3000\r\n".toList, by decide, ['\u2003'], "\u3000\r\n".toList,
      by decide, by decide, by decide, by decide⟩
  have unbroken : Text.Unbroken (Utf8.decodeLossy front).tail := by decide
  have brought := backward 0 address front back completed linked unbroken
  have ill : Utf8.decode? (front ++ back) = none := by decide
  obtain ⟨line, -, here, -, -, placed⟩ := forward 1 address brought
  obtain rfl : line = front ++ back := Option.some.inj (here.symm.trans completed)
  obtain ⟨token, part, whole, link, -⟩ := placed ill
  exact ⟨completed, linked, unbroken, brought, ill, token, part, whole, link⟩

end FrameStream
end Backtrace
