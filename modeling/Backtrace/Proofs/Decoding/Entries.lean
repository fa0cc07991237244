import Backtrace.Proofs.Decoding.OutputLines
import Backtrace.Proofs.Text.Characters
import Backtrace.Text.Cut

/-!
# Reading entries back

The line of an entry has no escapes, and the whole output of a run is made up of such lines. It can
still be read back as long as no function has an at sign or a line feed in it and no location has a
line feed: the first at sign of a line then stands before the location, and no blank is in the
address. The reader here accepts exactly the bytes of lists of such entries, so two lists with the
same bytes are the same list; and what a run writes are the bytes of such a list.
-/

namespace Backtrace

namespace Address

variable (address : Address)

/-- No at sign is in an address. -/
theorem at_not_mem_spelling : '@' ∉ address.spelling := by
  obtain ⟨mark, digits, spelled, marked, -, hexadecimal⟩ := address.exists_spelling
  rw [spelled]
  intro inside
  rcases List.mem_cons.1 inside with same | later
  · exact absurd same (by decide)
  · rcases List.mem_cons.1 later with same | digit
    · rw [← same] at marked
      exact absurd marked (by decide)
    · exact absurd (hexadecimal '@' digit) (by decide)

/-- No blank is in an address. -/
theorem blank_not_mem_spelling : ' ' ∉ address.spelling :=
  fun inside => absurd (address.unbroken_spelling ' ' inside) (by decide)

end Address

namespace Entry

/-- Nothing in the entry can be taken for the mark before a location or for the end of a line. -/
structure Readable (entry : Entry) : Prop where
  /-- The function has no at sign in it. -/
  unmarked : '@' ∉ entry.symbol.function
  /-- The function and the location have no line feed in them. -/
  single : entry.symbol.SingleLine

/-- The bytes of entries in order, each on a line of its own. -/
def stream (entries : List Entry) : Bytes := entries.flatMap bytes

/-- The entry of a line: the at sign is the first one of the line, and the address ends at the
first blank. -/
def ofText? (text : Text) : Option Entry :=
  match Text.cut? '@' text with
  | some (front, ' ' :: location) =>
    match Text.cut? ' ' front with
    | some (spelled, middle) =>
      match Text.enclosed? '-' ' ' middle with
      | some (' ' :: function) => (Address.parse? spelled).map (⟨·, ⟨function, location⟩⟩)
      | _ => none
    | none => none
  | _ => none

/-- The entry is read from its own line. -/
theorem ofText?_text {entry : Entry} (unmarked : '@' ∉ entry.symbol.function) :
    ofText? entry.text = some entry := by
  obtain ⟨address, function, location⟩ := entry
  have marked : Text.cut? '@' (text ⟨address, ⟨function, location⟩⟩) =
      some (address.spelling ++ ' ' :: '-' :: (' ' :: function ++ [' ']), ' ' :: location) := by
    rw [Text.cut?_eq_some_iff]
    exact ⟨by simp [text], by simpa [address.at_not_mem_spelling] using unmarked⟩
  have parted : Text.cut? ' ' (address.spelling ++ ' ' :: '-' :: (' ' :: function ++ [' '])) =
      some (address.spelling, '-' :: (' ' :: function ++ [' '])) :=
    Text.cut?_eq_some_iff.2 ⟨rfl, address.blank_not_mem_spelling⟩
  have enclosed : Text.enclosed? '-' ' ' ('-' :: (' ' :: function ++ [' '])) =
      some (' ' :: function) := Text.enclosed?_eq_some_iff.2 rfl
  simp only [ofText?, marked, parted, enclosed, Address.parse?_spelling, Option.map_some]

/-- A line from which an entry is read is the line of the entry. -/
theorem text_of_ofText? {text : Text} {entry : Entry} (read : ofText? text = some entry) :
    text = entry.text ∧ '@' ∉ entry.symbol.function := by
  unfold ofText? at read
  split at read
  · rename_i front location marked
    split at read
    · rename_i spelled middle parted
      split at read
      · rename_i function enclosed
        obtain ⟨address, parsed, rfl⟩ := Option.map_eq_some_iff.1 read
        obtain ⟨rfl, unmarked⟩ := Text.cut?_eq_some_iff.1 marked
        obtain ⟨rfl, -⟩ := Text.cut?_eq_some_iff.1 parted
        obtain rfl := Text.enclosed?_eq_some_iff.1 enclosed
        obtain rfl := Address.parse?_eq_some_iff.1 parsed
        exact ⟨by simp [Entry.text], fun inside => unmarked (by simp [inside])⟩
      · simp at read
    · simp at read
  · simp at read

/-- The entry is read from its line, and from no other. -/
theorem ofText?_eq_some_iff {text : Text} {entry : Entry} :
    ofText? text = some entry ↔ text = entry.text ∧ '@' ∉ entry.symbol.function := by
  constructor
  · exact text_of_ofText?
  · rintro ⟨rfl, unmarked⟩
    exact ofText?_text unmarked

/-- The entries of the pieces between line feeds, of which the last one has to be empty. -/
def ofPieces? : List Text → Option (List Entry)
  | [] => none
  | [last] => if last = [] then some [] else none
  | line :: next :: later =>
    (ofText? line).bind fun entry => (ofPieces? (next :: later)).map (entry :: ·)

/-- A piece before others is a line. -/
theorem ofPieces?_cons {line : Text} {pieces : List Text} (later : pieces ≠ []) :
    ofPieces? (line :: pieces) =
      (ofText? line).bind fun entry => (ofPieces? pieces).map (entry :: ·) := by
  match pieces, later with
  | _ :: _, _ => rfl

/-- The entries that bytes spell. -/
def ofBytes? (bytes : Bytes) : Option (List Entry) :=
  (Utf8.decode? bytes).bind fun text => ofPieces? (text.splitOn '\n')

/-- The entries are read from the pieces of their text, and from no other text. -/
theorem ofPieces?_splitOn_iff {text : Text} {entries : List Entry} :
    ofPieces? (text.splitOn '\n') = some entries ↔
      text = entries.flatMap (·.text ++ ['\n']) ∧ ∀ entry ∈ entries, entry.Readable := by
  induction text using Text.line_induction generalizing entries with
  | last line single =>
    rw [List.splitOn_eq_singleton single, ofPieces?]
    cases entries with
    | nil => simp
    | cons entry others =>
      constructor
      · intro read
        split at read <;> simp at read
      · rintro ⟨rfl, -⟩
        simp at single
  | more line rest single ih =>
    rw [List.splitOn_append_cons_self_of_not_mem single, ofPieces?_cons (List.splitOn_ne_nil _ _)]
    simp only [Option.bind_eq_some_iff, Option.map_eq_some_iff, ofText?_eq_some_iff, ih]
    constructor
    · rintro ⟨entry, ⟨rfl, unmarked⟩, others, ⟨rfl, readable⟩, rfl⟩
      have first : entry.Readable := by
        refine ⟨unmarked, fun inside => single ?_, fun inside => single ?_⟩ <;>
          simp [Entry.text, inside]
      exact ⟨by simp, List.forall_mem_cons.2 ⟨first, readable⟩⟩
    · rintro ⟨same, readable⟩
      cases entries with
      | nil => simp at same
      | cons entry others =>
        obtain ⟨first, later⟩ := List.forall_mem_cons.1 readable
        rw [List.flatMap_cons, List.append_assoc, List.singleton_append] at same
        -- Both lines end at the first line feed of the text.
        obtain ⟨rfl, rfl⟩ :=
          Text.eq_of_append_mark_eq single (lineFeed_not_mem_text first.single) same
        exact ⟨entry, ⟨rfl, first.unmarked⟩, others, ⟨rfl, later⟩, rfl⟩

/-- The bytes of entries are those of their text. -/
theorem stream_eq_encode (entries : List Entry) :
    stream entries = Utf8.encode (entries.flatMap (·.text ++ ['\n'])) := by
  induction entries with
  | nil => rfl
  | cons entry others ih =>
    have rest : stream (entry :: others) = entry.bytes ++ stream others := rfl
    rw [rest, ih, List.flatMap_cons, Utf8.encode_append]
    rfl

/-- Readable entries are read from their bytes, and from no others. -/
theorem ofBytes?_eq_some_iff {bytes : Bytes} {entries : List Entry} :
    ofBytes? bytes = some entries ↔
      bytes = stream entries ∧ ∀ entry ∈ entries, entry.Readable := by
  simp only [ofBytes?, Option.bind_eq_some_iff, Utf8.decode?_eq_some_iff, ofPieces?_splitOn_iff,
    stream_eq_encode]
  constructor
  · rintro ⟨text, rfl, rfl, readable⟩
    exact ⟨rfl, readable⟩
  · rintro ⟨rfl, readable⟩
    exact ⟨_, rfl, rfl, readable⟩

/-- Readable entries are told by their bytes. -/
theorem eq_of_stream_eq {left right : List Entry} (readable : ∀ entry ∈ left, entry.Readable)
    (legible : ∀ entry ∈ right, entry.Readable) (same : stream left = stream right) :
    left = right := by
  have first : ofBytes? (stream left) = some left := ofBytes?_eq_some_iff.2 ⟨rfl, readable⟩
  have second : ofBytes? (stream left) = some right := ofBytes?_eq_some_iff.2 ⟨same, legible⟩
  exact Option.some.inj (first.symm.trans second)

/-- An at sign in a function hides where the location starts, even without a blank after it. -/
example (address : Address) : text ⟨address, ⟨['f', ' ', '@'], ['a']⟩⟩ =
    text ⟨address, ⟨['f'], ['@', ' ', 'a']⟩⟩ := by simp [text]

end Entry

namespace Answer

/-- The entry of an address with a known place. -/
def entry? : Answer → Option Entry
  | ⟨address, .ok (.resolved symbol)⟩ => some ⟨address, symbol⟩
  | _ => none

/-- What is written for answers are the bytes of their entries. -/
theorem flatMap_written_eq_stream (answers : List Answer) :
    answers.flatMap written = Entry.stream (answers.filterMap entry?) := by
  induction answers with
  | nil => rfl
  | cons answer later ih =>
    rw [List.flatMap_cons, ih]
    match answer with
    | ⟨_, .ok (.resolved _)⟩ => rfl
    | ⟨_, .ok .unresolved⟩ => rfl
    | ⟨_, .error _⟩ => rfl

end Answer

namespace Decoding

/-- The entries that a run writes: those of the frames that are resolved before the resolver first
fails to start. -/
def entries (resolver : Resolver) (configuration : Configuration) (input : List ReadEvent) :
    List Entry :=
  let addresses := (FrameStream.ofInput input).frames.map Prod.snd
  ((resolver.answers configuration 0 addresses).takeWhile fun answer =>
    answer.failure?.isNone).filterMap Answer.entry?

/-- However a run ends, its output are the bytes of its entries. -/
theorem output_run_eq_stream (resolver : Resolver) (configuration : Configuration)
    (input : List ReadEvent) :
    (run resolver configuration Sink.unlimited input).activity.output =
      Entry.stream (entries resolver configuration input) := by
  rw [output_run, Answer.flatMap_written_eq_stream]
  rfl

/-- Readable entries are told by their bytes, and the reader gives them back from these and from no
others. The output of a run, however the run ends, are the bytes of its entries. -/
theorem stream_unambiguous :
    (∀ left right : List Entry, (∀ entry ∈ left, entry.Readable) →
        (∀ entry ∈ right, entry.Readable) → Entry.stream left = Entry.stream right →
        left = right) ∧
      (∀ bytes listed, Entry.ofBytes? bytes = some listed ↔
        bytes = Entry.stream listed ∧ ∀ entry ∈ listed, entry.Readable) ∧
      ∀ resolver configuration input,
        let output := (run resolver configuration Sink.unlimited input).activity.output
        output = Entry.stream (entries resolver configuration input) ∧
          ((∀ entry ∈ entries resolver configuration input, entry.Readable) →
            Entry.ofBytes? output = some (entries resolver configuration input)) := by
  refine ⟨fun left right => Entry.eq_of_stream_eq, fun bytes listed =>
    Entry.ofBytes?_eq_some_iff, fun resolver configuration input => ?_⟩
  have output := output_run_eq_stream resolver configuration input
  exact ⟨output, fun readable => Entry.ofBytes?_eq_some_iff.2 ⟨output, readable⟩⟩

/-- A function that looks like the rest of a line, a location that starts with at signs, a frame
that is not resolved, and an entry with nothing but an address. -/
theorem stream_unambiguous_marks :
    let odd : Symbol := ⟨" - 0x2 \r".toList, "@ @ ".toList⟩
    let resolver : Resolver := ⟨"table".toList, fun asked _ =>
      ⟨.ok (if asked = 0 then .resolved odd else if asked = 1 then .unresolved
        else .resolved ⟨[], []⟩), [], []⟩⟩
    let configuration : Configuration := ⟨.ofText "kboot.elf".toList, .ofText "addr2line".toList⟩
    let input : List ReadEvent := [.bytes (Utf8.encode " 0x1\n 0xA\n 0x7 (0XF)\n".toList)]
    let listed : List Entry := [⟨⟨['0', 'x', '1'], rfl⟩, odd⟩, ⟨⟨['0', 'X', 'F'], rfl⟩, ⟨[], []⟩⟩]
    let output := (run resolver configuration Sink.unlimited input).activity.output
    output = Utf8.encode "0x1 -  - 0x2 \r @ @ @ \n0XF -  @ \n".toList ∧
      (∀ entry ∈ listed, entry.Readable) ∧
      Entry.stream listed = Entry.stream (entries resolver configuration input) ∧
      listed = entries resolver configuration input ∧ Entry.ofBytes? output = some listed := by
  intro odd resolver configuration input listed output
  have found : entries resolver configuration input = listed := by
    unfold entries
    rw [map_snd_frames]
    rfl
  have readable : ∀ entry ∈ listed, entry.Readable := by
    refine List.forall_mem_cons.2 ⟨⟨by decide, by decide, by decide⟩, ?_⟩
    exact List.forall_mem_singleton.2 ⟨by decide, by decide, by decide⟩
  obtain ⟨told, -, read⟩ := stream_unambiguous
  obtain ⟨written, back⟩ := read resolver configuration input
  rw [found] at written back
  have same : Entry.stream listed = Entry.stream (entries resolver configuration input) := by
    rw [found]
  refine ⟨written.trans (by decide +kernel), readable, same, ?_, back readable⟩
  exact told listed _ readable (found ▸ readable) same

end Decoding
end Backtrace
