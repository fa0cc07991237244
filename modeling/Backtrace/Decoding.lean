import Backtrace.Configuration
import Backtrace.Trace.FrameStream

/-!
# Decoding a trace

The run that turns an input into resolved lines. Frames are taken strictly in order, with one
request each; a resolved frame is written at once and an unresolved one is left out. The first
failure to read, to start the resolver or to write ends the run, and what was done before it
stands. A run is its result together with its whole activity, and it leaves a writer behind.
-/

namespace Backtrace

/-- Why a run failed. -/
inductive DecodeError where
  /-- The input failed. -/
  | read (fault : Fault)
  /-- The resolver program did not start. -/
  | launch (failure : LaunchFailure)
  /-- The output failed. -/
  | write (fault : Fault)
deriving DecidableEq

namespace DecodeError

/-- The text of an error, without its cause. -/
def message : DecodeError → Text
  | read _ => "failed to read trace input".toList
  | launch failure => failure.message
  | write _ => "failed to write decoded trace".toList

/-- The fault behind an error. -/
def cause : DecodeError → Fault
  | read fault => fault
  | launch failure => failure.cause
  | write fault => fault

end DecodeError

/-- What a run does, each kind of act in its own order. -/
structure Activity where
  /-- The bytes that the writer took. -/
  output : Bytes
  /-- The requests that the resolver received. -/
  requests : List Request
  /-- The programs that were run. -/
  invocations : List Invocation
  /-- The records that were logged. -/
  records : List Record
deriving DecidableEq

namespace Activity

/-- Doing nothing. -/
def none : Activity := ⟨[], [], [], []⟩

/-- Logging and nothing else. -/
def ofRecords (records : List Record) : Activity := { none with records := records }

/-- One activity and then another. -/
instance : Append Activity where
  append first second :=
    ⟨first.output ++ second.output, first.requests ++ second.requests,
      first.invocations ++ second.invocations, first.records ++ second.records⟩

/-- Activities follow one another act by act. -/
theorem append_def (first second : Activity) :
    first ++ second = ⟨first.output ++ second.output, first.requests ++ second.requests,
      first.invocations ++ second.invocations, first.records ++ second.records⟩ := rfl

/-- Three activities in order are the same however they are grouped. -/
theorem append_assoc (first second third : Activity) :
    first ++ second ++ third = first ++ (second ++ third) := by
  simp [append_def, List.append_assoc]

/-- Doing nothing afterwards is doing no more. -/
theorem append_none (activity : Activity) : activity ++ Activity.none = activity := by
  simp [append_def, Activity.none]

end Activity

/-- A finished run. -/
structure Run (σ : Type) where
  /-- The counts, or why the run failed. -/
  result : Except DecodeError Summary
  /-- What it did. -/
  activity : Activity
  /-- The writer that it leaves behind. -/
  writer : σ

namespace Run

variable {σ : Type}

/-- The run with an activity before its own. -/
def after (activity : Activity) (run : Run σ) : Run σ :=
  { run with activity := activity ++ run.activity }

/-- The run with an activity before its own and the counts that belong to it. -/
def following (counts : Summary) (activity : Activity) (run : Run σ) : Run σ :=
  ⟨run.result.map (counts + ·), activity ++ run.activity, run.writer⟩

end Run

/-- What became of one frame. -/
structure Handling (σ : Type) where
  /-- The counts that it adds, or the error that ends the run. -/
  outcome : Except DecodeError Summary
  /-- What was done. -/
  activity : Activity
  /-- The writer after it. -/
  writer : σ

/-- The run that goes on after a frame is handled, or ends with the error that handling it
met. -/
def Handling.proceed {σ : Type} (handling : Handling σ) (next : σ → Run σ) : Run σ :=
  match handling.outcome with
  | .error error => ⟨.error error, handling.activity, handling.writer⟩
  | .ok counts => (next handling.writer).following counts handling.activity

namespace Decoding

variable {σ : Type} [Writer σ]

/-- Asks for one frame and writes its line if it is resolved. -/
def handle (resolver : Resolver) (configuration : Configuration) (asked : Nat) (writer : σ)
    (number : Nat) (address : Address) : Handling σ :=
  let request := configuration.request address
  let reply := resolver.answer asked request
  let activity : Activity := ⟨[], [request], reply.invocations, reply.records⟩
  match reply.outcome with
  | .error failure => ⟨.error (.launch failure), activity, writer⟩
  | .ok .unresolved =>
    ⟨.ok .unresolvedFrame,
      activity ++ .ofRecords [.unresolvedFrame number address resolver.name], writer⟩
  | .ok (.resolved symbol) =>
    let written := Entry.write ⟨address, symbol⟩ writer
    ⟨(written.result.mapError .write).map fun _ => .resolvedFrame,
      { activity with output := written.taken }, written.writer⟩

/-- The end of a run whose stream has ended: the writer is flushed and the lines are counted. -/
def finish (writer : σ) (lines : Nat) : Run σ :=
  let flushed := Writer.flush writer
  ⟨(flushed.1.mapError .write).map fun _ => .ofLines lines, .none, flushed.2⟩

/-- The run over what is left of a stream, after a number of earlier requests. -/
def runFrom (resolver : Resolver) (configuration : Configuration) (asked : Nat) (writer : σ)
    (stream : FrameStream) : Run σ :=
  let skipped := Activity.ofRecords stream.next.records
  match brought : stream.next.item with
  | none => (finish writer stream.next.stream.linesRead).after skipped
  | some (.fault fault) => ⟨.error (.read fault), skipped, writer⟩
  | some (.frame number address) =>
    ((handle resolver configuration asked writer number address).proceed fun after =>
      runFrom resolver configuration (asked + 1) after stream.next.stream).after skipped
termination_by Trace.weight stream.input
decreasing_by exact FrameStream.weight_next_lt brought

/-- Decodes an input: the frames it holds, resolved by a resolver and written to a writer. -/
def run (resolver : Resolver) (configuration : Configuration) (writer : σ)
    (input : List ReadEvent) : Run σ :=
  runFrom resolver configuration 0 writer (.ofInput input)

end Decoding
end Backtrace
