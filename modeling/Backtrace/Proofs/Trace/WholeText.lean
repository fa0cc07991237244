import Backtrace.Proofs.Text.Characters
import Backtrace.Proofs.Text.Lines
import Backtrace.Proofs.Trace.Frames

/-!
# Streaming and reading at once agree

The frames of an input that delivers some bytes, in chunks cut anywhere and with reads repeated
between them, are the frames of the text of all these bytes. Two readings of the same bytes are
compared: the stream reads each line by itself and keeps its end, the whole text is read first
and then cut into lines without their ends. They agree because a lossy reading splits at every
line feed and because the end of a line is blank, so no frame depends on it.
-/

namespace Backtrace

namespace Frame

/-- A blank after a line changes nothing about its frame. -/
theorem address?_append_blank {blank : Char} (isolated : Text.isBlank blank = true)
    (line : Text) : address? (line ++ [blank]) = address? line := by
  have words : (line ++ [blank]).words = line.words := by
    rw [Text.words_append_blank isolated, Text.words_nil, List.append_nil]
  have prefixes : opening <+: line ++ [blank] ↔ opening <+: line := by
    constructor
    · intro starts
      rcases List.prefix_concat_iff.1 starts with whole | inside
      · have last := congrArg List.getLast? whole
        have mark : blank = 'x' := by simpa [opening] using last.symm
        rw [mark] at isolated
        exact absurd isolated (by decide)
      · exact inside
    · intro starts
      exact starts.trans (List.prefix_append line [blank])
  have opens : opening.isPrefixOf (line ++ [blank]) = opening.isPrefixOf line := by
    rw [Bool.eq_iff_iff, List.isPrefixOf_iff_prefix, List.isPrefixOf_iff_prefix, prefixes]
  rw [address?, address?, candidate?, candidate?, words, opens]

/-- A carriage return at the end of a line changes nothing about its frame. -/
theorem address?_dropReturn (line : Text) : address? line.dropReturn = address? line :=
  Text.apply_dropReturn (address?_append_blank (by decide)) line

end Frame

namespace Trace

open LineMachine

/-- The first line ends at the first line feed. -/
theorem splitLine?_of_single {front : Bytes} (single : lineFeed ∉ front) (rest : Bytes) :
    splitLine? (front ++ lineFeed :: rest) = some (front ++ [lineFeed], rest) := by
  induction front with
  | nil => simp [splitLine?]
  | cons byte others ih =>
    have other : byte ≠ lineFeed := fun same => single (by simp [same])
    have later : lineFeed ∉ others := fun inside => single (by simp [inside])
    rw [List.cons_append, splitLine?, if_neg other, ih later]
    rfl

/-- Without a line feed no line ends. -/
theorem splitLine?_of_not_mem {bytes : Bytes} (absent : lineFeed ∉ bytes) :
    splitLine? bytes = none := by
  induction bytes with
  | nil => rfl
  | cons byte others ih =>
    have other : byte ≠ lineFeed := fun same => absent (by simp [same])
    have later : lineFeed ∉ others := fun inside => absent (by simp [inside])
    rw [splitLine?, if_neg other, ih later]
    rfl

/-- An input that delivers some bytes: chunks of them, cut anywhere, and interrupted reads that
are repeated. -/
inductive Delivers : List ReadEvent → Bytes → Prop where
  /-- Nothing delivers no bytes. -/
  | nothing : Delivers [] []
  /-- A chunk delivers its bytes before those that follow. -/
  | chunk {input : List ReadEvent} {bytes : Bytes} (arrived : Bytes)
      (later : Delivers input bytes) : Delivers (.bytes arrived :: input) (arrived ++ bytes)
  /-- A repeated read delivers nothing. -/
  | retry {input : List ReadEvent} {bytes : Bytes} (later : Delivers input bytes) :
      Delivers (.retry :: input) bytes

/-- However bytes are delivered, the machine takes one after the other. -/
theorem run_of_delivers {input : List ReadEvent} {bytes : Bytes}
    (delivered : Delivers input bytes) {machine : LineMachine}
    (reading : machine.status = .reading) : machine.run input = bytes.foldl take machine := by
  induction delivered generalizing machine with
  | nothing => rfl
  | chunk arrived _ ih =>
    have still : (arrived.foldl take machine).status = .reading := by
      rw [status_foldl_take, reading]
    rw [run, List.foldl_cons, step_bytes reading, List.foldl_append]
    exact ih still
  | retry _ ih =>
    have same : machine.step .retry = machine := by simp only [step, reading]
    rw [run, List.foldl_cons, same]
    exact ih reading

/-- Line by line, the lines that the machine completes have the frames of the lines of the whole
text. -/
theorem address?_texts_eq_lines (bytes : Bytes) :
    ((bytes.foldl take (holding [])).close).texts.map Frame.address? =
      (Utf8.decodeLossy bytes).lines.map Frame.address? := by
  induction size : bytes.length using Nat.strongRecOn generalizing bytes with
  | _ size shorter =>
    subst size
    by_cases feed : lineFeed ∈ bytes
    · obtain ⟨front, rest, rfl, single⟩ := List.eq_append_cons_of_mem feed
      have machine := foldl_take_of_split (splitLine?_of_single single rest) []
      have text : Utf8.decodeLossy (front ++ lineFeed :: rest) =
          Utf8.decodeLossy front ++ '\n' :: Utf8.decodeLossy rest :=
        Utf8.decodeLossy_append_ascii (by decide) front rest
      have line : Utf8.decodeLossy (front ++ [lineFeed]) = Utf8.decodeLossy front ++ ['\n'] :=
        Utf8.decodeLossy_append_ascii (by decide) front []
      have fewer : rest.length < (front ++ lineFeed :: rest).length := by
        rw [List.length_append, List.length_cons]
        omega
      have rests := shorter rest.length fewer rest rfl
      rw [machine, close_after, text,
        Text.lines_append_lineFeed (Utf8.lineFeed_not_mem_decodeLossy single), List.map_cons,
        ← rests, Frame.address?_dropReturn, ← Frame.address?_append_blank Text.isBlank_lineFeed,
        ← line]
      rfl
    · rw [foldl_take_of_open (splitLine?_of_not_mem feed), List.nil_append]
      by_cases nothing : bytes = []
      · subst nothing
        rfl
      · have text := Text.lines_of_single (Utf8.decodeLossy_ne_nil nothing)
          (Utf8.lineFeed_not_mem_decodeLossy feed)
        rw [text, close, step_pause_holding, if_neg nothing]
        rfl

end Trace

namespace FrameStream

open Trace LineMachine

/-- An input that delivers some bytes brings the addresses of the text of these bytes. -/
theorem map_snd_frames_of_delivers {input : List ReadEvent} {bytes : Bytes}
    (delivered : Delivers input bytes) :
    (ofInput input).frames.map Prod.snd = Frame.addresses (Utf8.decodeLossy bytes) := by
  have machine : scan [] input = (bytes.foldl take (holding [])).close := by
    rw [scan, run_of_delivers delivered rfl]
  rw [frames_ofInput, machine, Frame.numbered_congr (address?_texts_eq_lines bytes) 1,
    Frame.map_snd_numbered]
  rfl

/-- An input that delivers some bytes does not fail. -/
theorem fault?_of_delivers {input : List ReadEvent} {bytes : Bytes}
    (delivered : Delivers input bytes) : (ofInput input).fault? = none := by
  have reading : (bytes.foldl take (holding [])).status = .reading :=
    status_foldl_take bytes (holding [])
  rw [fault?_ofInput, scan, run_of_delivers delivered rfl, LineMachine.fault?, status_close reading]

/-- An input that delivers some bytes has as many lines as the text of these bytes. -/
theorem totalLines_of_delivers {input : List ReadEvent} {bytes : Bytes}
    (delivered : Delivers input bytes) :
    (ofInput input).totalLines = (Utf8.decodeLossy bytes).lines.length := by
  have same := congrArg List.length (address?_texts_eq_lines bytes)
  rw [texts, List.map_map, List.length_map, List.length_map] at same
  rw [totalLines_ofInput, scan, run_of_delivers delivered rfl, same]

/-- An input that delivers some bytes brings the frames of their text, each under the number of
its line, and then nothing. -/
theorem drain_of_delivers {input : List ReadEvent} {bytes : Bytes}
    (delivered : Delivers input bytes) :
    let text := Utf8.decodeLossy bytes
    let stream := ofInput input
    stream.drain.map Pull.item =
        (Frame.numbered 1 text.lines).map (fun (number, address) => some (.frame number address)) ++
          [none] ∧
      stream.frames.map Prod.snd = Frame.addresses text ∧
      stream.totalLines = text.lines.length := by
  intro text stream
  have machine : scan [] input = (bytes.foldl take (holding [])).close := by
    rw [scan, run_of_delivers delivered rfl]
  have same : (scan [] input).texts.map Frame.address? = text.lines.map Frame.address? := by
    rw [machine]
    exact address?_texts_eq_lines bytes
  have count : (scan [] input).completed.length = text.lines.length := by
    simpa [texts] using congrArg List.length same
  have sound : (scan [] input).fault? = none := by
    have ended : (bytes.foldl take (holding [])).close.status = .finished :=
      status_close (by rw [status_foldl_take, holding])
    rw [machine, LineMachine.fault?, ended]
  have frames := Frame.numbered_congr same 1
  refine ⟨?_, ?_, ?_⟩
  · have observed : stream.drain.map Pull.item = stream.observations.map Prod.fst := by
      rw [observations, List.map_map]
      rfl
    rw [observed, show stream = ⟨input, 0, false, []⟩ from rfl, observations_eq_scan,
      LineMachine.observations, sound, frames]
    simp
  · rw [frames_ofInput, frames, Frame.map_snd_numbered]
    rfl
  · rw [totalLines_ofInput, count]

/-- Chunks that end between a carriage return and its line feed and inside a character, and that
hold an ill-formed byte. -/
theorem drain_of_delivers_cut :
    let input : List ReadEvent := [.bytes [0x20, 0x30, 0x78, 0x41, 0x0D], .retry, .retry,
      .bytes [0x0A, 0xC3], .bytes [0xA9, 0x0A, 0x20, 0x30, 0x78, 0xFF, 0x20],
      .retry, .bytes [0x28, 0x30, 0x58, 0x31, 0x29]]
    let bytes : Bytes := [0x20, 0x30, 0x78, 0x41, 0x0D, 0x0A, 0xC3, 0xA9, 0x0A, 0x20, 0x30, 0x78,
      0xFF, 0x20, 0x28, 0x30, 0x58, 0x31, 0x29]
    Delivers input bytes ∧
      (ofInput input).drain.map Pull.item =
        [some (.frame 1 ⟨['0', 'x', 'A'], rfl⟩), some (.frame 3 ⟨['0', 'X', '1'], rfl⟩), none] ∧
      (ofInput input).totalLines = 3 := by
  intro input bytes
  have delivered : Delivers input bytes :=
    .chunk _ (.retry (.retry (.chunk _ (.chunk _ (.retry (.chunk _ .nothing))))))
  obtain ⟨items, -, lines⟩ := drain_of_delivers delivered
  exact ⟨delivered, items.trans (by decide), lines.trans (by decide)⟩

end FrameStream
end Backtrace
