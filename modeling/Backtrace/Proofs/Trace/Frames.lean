import Backtrace.Proofs.Trace.Reading
import Backtrace.Trace.FrameStream

/-!
# The frames of a stream are the frames of the line machine

Pulling a stream until it brings nothing yields one frame for each completed line that is one,
under the number of that line, and then the fault if one ended the input. The lines read after
each pull are those completed up to it. What a stream brings is therefore a function of the
lines that the machine completes, and of nothing else in the input.
-/

namespace Backtrace

namespace Frame

/-- The frames among consecutive lines, each as the number of its line and its address; the
first line has the given number. -/
def numbered (first : Nat) (lines : List Text) : List (Nat × Address) :=
  (lines.zipIdx first).filterMap fun (line, number) =>
    (address? line).map fun address => (number, address)

/-- A line that is no frame only takes a number. -/
theorem numbered_cons_of_none {line : Text} (noise : address? line = none) (first : Nat)
    (lines : List Text) : numbered first (line :: lines) = numbered (first + 1) lines := by
  simp [numbered, noise]

/-- A line that is a frame takes its number and gives its address. -/
theorem numbered_cons_of_some {line : Text} {address : Address}
    (frame : address? line = some address) (first : Nat) (lines : List Text) :
    numbered first (line :: lines) = (first, address) :: numbered (first + 1) lines := by
  simp [numbered, frame]

/-- Lines with the same addresses hold the same frames. -/
theorem numbered_congr {lines others : List Text}
    (same : lines.map address? = others.map address?) (first : Nat) :
    numbered first lines = numbered first others := by
  have through : ∀ texts : List Text, numbered first texts =
      ((texts.map address?).zipIdx first).filterMap fun (found, number) =>
        found.map fun address => (number, address) := by
    intro texts
    rw [List.zipIdx_map, List.filterMap_map]
    rfl
  rw [through, through, same]

/-- The addresses of numbered frames are those of the lines. -/
theorem map_snd_numbered (first : Nat) (lines : List Text) :
    (numbered first lines).map Prod.snd = lines.filterMap address? := by
  induction lines generalizing first with
  | nil => rfl
  | cons line later ih =>
    cases found : address? line with
    | none => rw [numbered_cons_of_none found, ih, List.filterMap_cons_none found]
    | some address =>
      rw [numbered_cons_of_some found, List.map_cons, ih, List.filterMap_cons_some found]

/-- The numbered frames are the lines that are frames, each under its place. -/
theorem mem_numbered_iff {first number : Nat} {address : Address} {lines : List Text} :
    (number, address) ∈ numbered first lines ↔
      ∃ line, first ≤ number ∧ lines[number - first]? = some line ∧
        address? line = some address := by
  rw [numbered, List.mem_filterMap]
  constructor
  · rintro ⟨⟨line, place⟩, inside, paired⟩
    obtain ⟨_, found, same⟩ := Option.map_eq_some_iff.1 paired
    obtain ⟨rfl, rfl⟩ := Prod.mk.inj same
    obtain ⟨low, here⟩ := List.mk_mem_zipIdx_iff_le_and_getElem?_sub.1 inside
    exact ⟨line, low, here, found⟩
  · rintro ⟨line, low, here, found⟩
    have inside := List.mk_mem_zipIdx_iff_le_and_getElem?_sub.2 ⟨low, here⟩
    exact ⟨(line, number), inside, by simp [found]⟩

end Frame

/-- The number of the line and the address, of an item that is a frame. -/
def TraceItem.frame? : TraceItem → Option (Nat × Address)
  | .frame number address => some (number, address)
  | .fault _ => none

/-- The fault, of an item that is one. -/
def TraceItem.fault? : TraceItem → Option FinalFault
  | .frame .. => none
  | .fault reason => some reason

namespace FrameStream

open Trace LineMachine

/-- The frames that a stream brings, in order. -/
def frames (stream : FrameStream) : List (Nat × Address) :=
  stream.drain.filterMap fun pull => pull.item.bind TraceItem.frame?

/-- The fault that a stream brings, if it brings one. -/
def fault? (stream : FrameStream) : Option FinalFault :=
  (stream.drain.filterMap fun pull => pull.item.bind TraceItem.fault?).head?

/-- The number of lines read when a stream has brought everything. -/
def totalLines (stream : FrameStream) : Nat :=
  (stream.drain.getLast?.map fun pull => pull.stream.linesRead).getD 0

/-- One pull, by the first line that is read; what the buffer held before makes no difference. -/
theorem next_eq_of_readLine (input : List ReadEvent) (count : Nat) (held : Bytes) :
    (FrameStream.mk input count false held).next =
      match readLine [] input with
      | (.finished, rest) => ⟨none, ⟨rest, count, true, []⟩, []⟩
      | (.failed part fault, rest) => ⟨some (.fault fault), ⟨rest, count, true, part⟩, []⟩
      | (.interrupted part, rest) => (FrameStream.mk rest count false part).next
      | (.line bytes, rest) =>
        match Frame.address? (Utf8.decodeLossy bytes) with
        | some address => ⟨some (.frame (count + 1) address), ⟨rest, count + 1, false, bytes⟩, []⟩
        | none => (FrameStream.mk rest (count + 1) false bytes).next.after
            (.skippedLine (count + 1) (Utf8.decodeLossy bytes).trimEnd) := by
  rw [next, if_neg Bool.false_ne_true]
  split
  · rename_i read
    rw [read]
    rfl
  · rename_i read
    rw [read]
    rfl
  · rename_i read
    rw [read]
    rfl
  · rename_i bytes rest read
    simp only [clear, List.nil_append]
    cases found : Frame.address? (Utf8.decodeLossy bytes) <;> simp only [read, found]

/-- Induction on the lines that pulls read, with what the first line means to the next pull and
to the machine. -/
theorem pull_induction {motive : List ReadEvent → Nat → Bytes → Prop}
    (finished : ∀ input count held rest,
      (FrameStream.mk input count false held).next = ⟨none, ⟨rest, count, true, []⟩, []⟩ →
      scan [] input = ⟨[], [], .finished⟩ → motive input count held)
    (failed : ∀ input count held part fault rest,
      (FrameStream.mk input count false held).next =
        ⟨some (.fault fault), ⟨rest, count, true, part⟩, []⟩ →
      scan [] input = ⟨[], [], .failed fault⟩ → motive input count held)
    (interrupted : ∀ input count held part rest,
      (FrameStream.mk input count false held).next = (FrameStream.mk rest count false part).next →
      scan [] input = scan [] rest → motive rest count part → motive input count held)
    (noise : ∀ input count held line rest, Frame.address? (Utf8.decodeLossy line) = none →
      (FrameStream.mk input count false held).next =
        (FrameStream.mk rest (count + 1) false line).next.after
          (.skippedLine (count + 1) (Utf8.decodeLossy line).trimEnd) →
      scan [] input = (scan [] rest).after [line] → motive rest (count + 1) line →
      motive input count held)
    (frame : ∀ input count held line rest address,
      Frame.address? (Utf8.decodeLossy line) = some address →
      (FrameStream.mk input count false held).next =
        ⟨some (.frame (count + 1) address), ⟨rest, count + 1, false, line⟩, []⟩ →
      scan [] input = (scan [] rest).after [line] → motive rest (count + 1) line →
      motive input count held)
    (input : List ReadEvent) (count : Nat) (held : Bytes) : motive input count held := by
  induction input using reading_induction generalizing count held with
  | finished input rest read scanned =>
    refine finished input count held rest ?_ scanned
    rw [next_eq_of_readLine, read]
  | failed input part fault rest read scanned =>
    refine failed input count held part fault rest ?_ scanned
    rw [next_eq_of_readLine, read]
  | interrupted input part rest read scanned ih =>
    refine interrupted input count held part rest ?_ scanned (ih count part)
    rw [next_eq_of_readLine input, read]
  | line input bytes rest read scanned ih =>
    cases found : Frame.address? (Utf8.decodeLossy bytes) with
    | none =>
      refine noise input count held bytes rest found ?_ scanned (ih (count + 1) bytes)
      simp only [next_eq_of_readLine input, read, found]
    | some address =>
      refine frame input count held bytes rest address found ?_ scanned (ih (count + 1) bytes)
      simp only [next_eq_of_readLine input, read, found]

/-- What successive pulls bring, up to and with the first that brings nothing, each with the
number of lines read after it. -/
def observations (stream : FrameStream) : List (Option TraceItem × Nat) :=
  stream.drain.map fun pull => (pull.item, pull.stream.linesRead)

/-- A pull that brings nothing is the last. -/
theorem observations_of_none {stream : FrameStream} (nothing : stream.next.item = none) :
    stream.observations = [(none, stream.next.stream.linesRead)] := by
  rw [observations, drain]
  split <;> simp_all

/-- A pull that brings an item is followed by those of the stream after it. -/
theorem observations_of_some {stream : FrameStream} {item : TraceItem}
    (brought : stream.next.item = some item) :
    stream.observations =
      (some item, stream.next.stream.linesRead) :: stream.next.stream.observations := by
  rw [observations, drain]
  split <;> simp_all [observations]

/-- Streams whose next pulls agree in item and stream bring the same. -/
theorem observations_congr {stream other : FrameStream}
    (items : stream.next.item = other.next.item)
    (streams : stream.next.stream = other.next.stream) :
    stream.observations = other.observations := by
  cases brought : other.next.item with
  | none =>
    rw [observations_of_none (items.trans brought), observations_of_none brought, streams]
  | some item =>
    rw [observations_of_some (items.trans brought), observations_of_some brought, streams]

end FrameStream

namespace Trace.LineMachine

/-- What a stream has to bring for the lines of a machine, after a number of earlier lines: each
frame when its line is read, then the fault if there is one, then nothing. -/
def observations (machine : LineMachine) (earlier : Nat) : List (Option TraceItem × Nat) :=
  (Frame.numbered (earlier + 1) machine.texts).map
      (fun (number, address) => (some (.frame number address), number)) ++
    machine.fault?.toList.map
      (fun fault => (some (.fault fault), earlier + machine.completed.length)) ++
    [(none, earlier + machine.completed.length)]

/-- A first line that is no frame is only counted. -/
theorem observations_after_of_none {line : Bytes}
    (noise : Frame.address? (Utf8.decodeLossy line) = none) (machine : LineMachine)
    (earlier : Nat) :
    (machine.after [line]).observations earlier = machine.observations (earlier + 1) := by
  have lines : (machine.after [line]).texts = Utf8.decodeLossy line :: machine.texts := rfl
  have total : earlier + (machine.after [line]).completed.length =
      earlier + 1 + machine.completed.length := by
    simp [after, Nat.add_comm, Nat.add_left_comm]
  rw [observations, lines, total, Frame.numbered_cons_of_none noise]
  rfl

/-- A first line that is a frame is brought first. -/
theorem observations_after_of_some {line : Bytes} {address : Address}
    (frame : Frame.address? (Utf8.decodeLossy line) = some address) (machine : LineMachine)
    (earlier : Nat) :
    (machine.after [line]).observations earlier =
      (some (.frame (earlier + 1) address), earlier + 1) ::
        machine.observations (earlier + 1) := by
  have lines : (machine.after [line]).texts = Utf8.decodeLossy line :: machine.texts := rfl
  have total : earlier + (machine.after [line]).completed.length =
      earlier + 1 + machine.completed.length := by
    simp [after, Nat.add_comm, Nat.add_left_comm]
  rw [observations, lines, total, Frame.numbered_cons_of_some frame]
  rfl

end Trace.LineMachine

namespace FrameStream

open Trace LineMachine

/-- A stream brings what the machine prescribes for the input that it has left. -/
theorem observations_eq_scan (input : List ReadEvent) (count : Nat) (held : Bytes) :
    (FrameStream.mk input count false held).observations =
      (scan [] input).observations count := by
  induction input, count, held using pull_induction with
  | finished input count held rest pulled scanned =>
    rw [observations_of_none (by rw [pulled]), pulled, scanned]
    rfl
  | failed input count held part fault rest pulled scanned =>
    have ended : (FrameStream.mk rest count true part).next =
        ⟨none, ⟨rest, count, true, part⟩, []⟩ := next_of_finished rfl
    rw [observations_of_some (by rw [pulled]), pulled, observations_of_none (by rw [ended]),
      ended, scanned]
    rfl
  | interrupted input count held part rest pulled scanned ih =>
    rw [scanned, ← ih]
    exact observations_congr (by rw [pulled]) (by rw [pulled])
  | noise input count held line rest noise pulled scanned ih =>
    rw [scanned, observations_after_of_none noise, ← ih]
    exact observations_congr (by rw [pulled]; rfl) (by rw [pulled]; rfl)
  | frame input count held line rest address frame pulled scanned ih =>
    rw [scanned, observations_after_of_some frame, ← ih, observations_of_some (by rw [pulled]),
      pulled]

/-- The frames that a stream brings are those among the completed lines. -/
theorem frames_ofInput (input : List ReadEvent) :
    (ofInput input).frames = Frame.numbered 1 (scan [] input).texts := by
  have through : (ofInput input).frames =
      (ofInput input).observations.filterMap fun seen => seen.1.bind TraceItem.frame? := by
    rw [observations, List.filterMap_map]
    rfl
  rw [through, ofInput, observations_eq_scan]
  simp [LineMachine.observations, List.filterMap_append, List.filterMap_map, Function.comp_def,
    TraceItem.frame?]

/-- A stream brings a frame exactly for each completed line that is one, under the number of the
line. -/
theorem mem_frames_iff {input : List ReadEvent} {number : Nat} {address : Address} :
    (number, address) ∈ (ofInput input).frames ↔
      ∃ line, 1 ≤ number ∧ (scan [] input).completed[number - 1]? = some line ∧
        Frame.address? (Utf8.decodeLossy line) = some address := by
  rw [frames_ofInput, Frame.mem_numbered_iff, texts]
  simp only [List.getElem?_map, Option.map_eq_some_iff]
  constructor
  · rintro ⟨_, low, ⟨line, here, rfl⟩, found⟩
    exact ⟨line, low, here, found⟩
  · rintro ⟨line, low, here, found⟩
    exact ⟨_, low, ⟨line, here, rfl⟩, found⟩

/-- The fault that a stream brings is the one that ended the input. -/
theorem fault?_ofInput (input : List ReadEvent) :
    (ofInput input).fault? = (scan [] input).fault? := by
  have through : (ofInput input).fault? =
      ((ofInput input).observations.filterMap fun seen => seen.1.bind TraceItem.fault?).head? := by
    rw [observations, List.filterMap_map]
    rfl
  have silent : ((Frame.numbered (0 + 1) (scan [] input).texts).map
      (fun (number, address) => (some (TraceItem.frame number address), number))).filterMap
        (fun seen => seen.1.bind TraceItem.fault?) = [] := by
    rw [List.filterMap_map]
    exact List.filterMap_eq_nil_iff.2 fun _ _ => rfl
  rw [through, ofInput, observations_eq_scan, LineMachine.observations, List.filterMap_append,
    List.filterMap_append, silent]
  cases (scan [] input).fault? <;> rfl

/-- The lines read in all are the completed ones. -/
theorem totalLines_ofInput (input : List ReadEvent) :
    (ofInput input).totalLines = (scan [] input).completed.length := by
  have through : (ofInput input).totalLines =
      ((ofInput input).observations.getLast?.map Prod.snd).getD 0 := by
    rw [observations, List.getLast?_map, Option.map_map]
    rfl
  rw [through, ofInput, observations_eq_scan]
  simp [LineMachine.observations]

/-- Pulling a stream until it brings nothing yields the frames among the lines that the machine
completes, each when its line is read, and then the fault if one ended the input. -/
theorem drain_refines_lineMachine (input : List ReadEvent) :
    let machine := ((holding []).run input).close
    let total := machine.completed.length
    (ofInput input).drain.map (fun pull => (pull.item, pull.stream.linesRead)) =
      (Frame.numbered 1 (machine.completed.map Utf8.decodeLossy)).map
          (fun (number, address) => (some (.frame number address), number)) ++
        machine.fault?.toList.map (fun fault => (some (.fault fault), total)) ++
        [(none, total)] := by
  have refined := observations_eq_scan input 0 []
  simp only [LineMachine.observations, Nat.zero_add] at refined
  exact refined

end FrameStream
end Backtrace
