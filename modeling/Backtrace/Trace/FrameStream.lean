import Backtrace.Frame
import Backtrace.Record
import Backtrace.Trace.Input

/-!
# Streams of frames

The frames of an input, pulled one at a time. A pull reads lines until one is a frame, the input
fails or it ends; it counts the lines and records those that it skips. All lines are read into
one buffer, which is cleared before each. After a failure or the end a stream takes nothing more
from its input. Every pull that brings an item leaves less input, so a stream can be drained.
-/

namespace Backtrace

/-- What a pull brings. -/
inductive TraceItem where
  /-- A frame: the number of its line, counted from one, and its address. -/
  | frame (number : Nat) (address : Address)
  /-- The failure that ended the input. -/
  | fault (fault : FinalFault)
deriving DecidableEq

/-- The state of a stream between two pulls. -/
structure FrameStream where
  /-- The input that has not been taken. -/
  input : List ReadEvent
  /-- The number of lines read so far. -/
  linesRead : Nat
  /-- The stream takes nothing more. -/
  finished : Bool
  /-- The buffer that lines are read into: the last line, or what was taken of it. -/
  buffer : Bytes
deriving DecidableEq

/-- The result of one pull. -/
structure Pull where
  /-- What it brings; nothing at the end of the stream. -/
  item : Option TraceItem
  /-- The stream after it. -/
  stream : FrameStream
  /-- The lines that it skipped, as log records. -/
  records : List Record
deriving DecidableEq

/-- The pull with one more record before its others. -/
def Pull.after (record : Record) (pull : Pull) : Pull :=
  { pull with records := record :: pull.records }

namespace FrameStream

open Trace

/-- The stream of an input from its start. -/
def ofInput (input : List ReadEvent) : FrameStream := ⟨input, 0, false, []⟩

/-- The stream with nothing in its buffer. -/
def clear (stream : FrameStream) : FrameStream := { stream with buffer := [] }

/-- The next frame or failure. A line whose lossy text is no frame is skipped, with a record of
its text without blanks at the end; an interrupted line is neither counted nor recorded. -/
def next (stream : FrameStream) : Pull :=
  if stream.finished then ⟨none, stream, []⟩
  else
    let buffer := stream.clear.buffer
    match read : readLine [] stream.input with
    | (.finished, rest) => ⟨none, ⟨rest, stream.linesRead, true, buffer⟩, []⟩
    | (.failed part fault, rest) =>
      ⟨some (.fault fault), ⟨rest, stream.linesRead, true, buffer ++ part⟩, []⟩
    | (.interrupted part, rest) => next ⟨rest, stream.linesRead, false, buffer ++ part⟩
    | (.line bytes, rest) =>
      let number := stream.linesRead + 1
      let line := buffer ++ bytes
      let text := Utf8.decodeLossy line
      match Frame.address? text with
      | some address => ⟨some (.frame number address), ⟨rest, number, false, line⟩, []⟩
      | none => (next ⟨rest, number, false, line⟩).after (.skippedLine number text.trimEnd)
termination_by weight stream.input
decreasing_by
  · exact weight_of_cut read (.inl ⟨part, rfl⟩)
  · have ⟨nonempty, bound⟩ := weight_of_line read
    have := List.length_pos_iff.2 nonempty
    simp only [List.length_nil] at bound
    omega

/-- A finished stream stays as it is and brings nothing. -/
theorem next_of_finished {stream : FrameStream} (finished : stream.finished = true) :
    stream.next = ⟨none, stream, []⟩ := by
  rw [next, if_pos finished]

/-- A pull that brings an item leaves less input. -/
theorem weight_next_lt {stream : FrameStream} {item : TraceItem}
    (brought : stream.next.item = some item) :
    weight stream.next.stream.input < weight stream.input := by
  fun_induction next stream with
  | case1 => simp at brought
  | case2 => simp at brought
  | case3 stream _ _ part fault rest read => exact weight_of_cut read (.inr ⟨part, fault, rfl⟩)
  | case4 stream _ _ part rest read ih =>
    exact Nat.lt_trans (ih brought) (weight_of_cut read (.inl ⟨part, rfl⟩))
  | case5 stream _ _ bytes rest read =>
    have ⟨nonempty, bound⟩ := weight_of_line read
    have := List.length_pos_iff.2 nonempty
    simp only [List.length_nil] at bound
    dsimp only
    omega
  | case6 stream _ _ bytes rest read number line text _ ih =>
    have ⟨nonempty, bound⟩ := weight_of_line read
    have := List.length_pos_iff.2 nonempty
    have later := ih brought
    simp only [List.length_nil] at bound
    simp only [Pull.after] at later ⊢
    omega

/-- The first pulls of a stream, as many as asked for. -/
def pulls (stream : FrameStream) : Nat → List Pull
  | 0 => []
  | count + 1 => stream.next :: stream.next.stream.pulls count

/-- The pulls of a stream up to and with the first that brings nothing. -/
def drain (stream : FrameStream) : List Pull :=
  match brought : stream.next.item with
  | none => [stream.next]
  | some _ => stream.next :: drain stream.next.stream
termination_by weight stream.input
decreasing_by exact weight_next_lt brought

end FrameStream
end Backtrace
