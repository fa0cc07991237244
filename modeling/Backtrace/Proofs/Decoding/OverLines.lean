import Backtrace.Decoding
import Backtrace.Proofs.Trace.Frames

/-!
# Decoding line by line

A run pulls frames from a stream, and each pull may read many lines. The same run can be told
over the completed lines alone, one after the other: a line that is no frame is recorded, a line
that is one is handled, and after the last line the run fails with the fault that ended the
input or is finished. A run therefore depends on its input through the completed lines and the
fault only, and what is said about runs can be proved by induction on lines.
-/

namespace Backtrace

variable {σ : Type}

namespace Run

variable (counts : Summary) (activity : Activity) (run : Run σ)

/-- Counts are added to those of the run. -/
theorem result_following : (run.following counts activity).result = run.result.map (counts + ·) :=
  rfl

/-- Earlier requests come first. -/
theorem requests_following : (run.following counts activity).activity.requests =
    activity.requests ++ run.activity.requests := rfl

/-- Earlier output comes first. -/
theorem output_following : (run.following counts activity).activity.output =
    activity.output ++ run.activity.output := rfl

/-- Earlier records come first. -/
theorem records_following : (run.following counts activity).activity.records =
    activity.records ++ run.activity.records := rfl

/-- The programs of earlier requests come first. -/
theorem invocations_following : (run.following counts activity).activity.invocations =
    activity.invocations ++ run.activity.invocations := rfl

/-- Activities that come before a run may be taken together. -/
theorem after_after (first second : Activity) (run : Run σ) :
    (run.after second).after first = run.after (first ++ second) := by
  simp only [after, Activity.append_assoc]

end Run

namespace Handling

variable {handling : Handling σ}

/-- An error ends the run with what was done for the frame. -/
theorem proceed_of_error {error : DecodeError} (failed : handling.outcome = .error error)
    (next : σ → Run σ) :
    handling.proceed next = ⟨.error error, handling.activity, handling.writer⟩ := by
  rw [proceed, failed]

/-- Without an error the run goes on with the counts of the frame. -/
theorem proceed_of_ok {counts : Summary} (handled : handling.outcome = .ok counts)
    (next : σ → Run σ) :
    handling.proceed next = (next handling.writer).following counts handling.activity := by
  rw [proceed, handled]

end Handling

namespace Decoding

variable [Writer σ] (resolver : Resolver) (configuration : Configuration)

/-- The run over completed lines and the fault after them, if there is one, with a number of
earlier requests and of earlier lines. -/
def overLines (fault : Option FinalFault) (asked : Nat) (writer : σ) (number : Nat) :
    List Bytes → Run σ
  | [] =>
    match fault with
    | some fault => ⟨.error (.read fault), .none, writer⟩
    | none => finish writer number
  | line :: later =>
    let text := Utf8.decodeLossy line
    match Frame.address? text with
    | none =>
      (overLines fault asked writer (number + 1) later).after
        (.ofRecords [.skippedLine (number + 1) text.trimEnd])
    | some address =>
      (handle resolver configuration asked writer (number + 1) address).proceed fun after =>
        overLines fault (asked + 1) after (number + 1) later

variable {resolver configuration} {asked : Nat} {writer : σ}

/-- A line that is no frame is recorded. -/
theorem overLines_cons_of_none {fault : Option FinalFault} {number : Nat} {line : Bytes}
    (noise : Frame.address? (Utf8.decodeLossy line) = none) (later : List Bytes) :
    overLines resolver configuration fault asked writer number (line :: later) =
      (overLines resolver configuration fault asked writer (number + 1) later).after
        (.ofRecords [.skippedLine (number + 1) (Utf8.decodeLossy line).trimEnd]) := by
  rw [overLines]
  simp only [noise]

/-- A line that is a frame is handled. -/
theorem overLines_cons_of_some {fault : Option FinalFault} {number : Nat} {line : Bytes}
    {address : Address} (frame : Frame.address? (Utf8.decodeLossy line) = some address)
    (later : List Bytes) :
    overLines resolver configuration fault asked writer number (line :: later) =
      (handle resolver configuration asked writer (number + 1) address).proceed fun after =>
        overLines resolver configuration fault (asked + 1) after (number + 1) later := by
  rw [overLines]
  simp only [frame]

variable {stream : FrameStream}

/-- A stream that is at its end finishes the run. -/
theorem runFrom_of_none (nothing : stream.next.item = none) :
    runFrom resolver configuration asked writer stream =
      (finish writer stream.next.stream.linesRead).after (.ofRecords stream.next.records) := by
  rw [runFrom]
  split <;> simp_all

/-- A stream that fails ends the run. -/
theorem runFrom_of_fault {fault : FinalFault} (brought : stream.next.item = some (.fault fault)) :
    runFrom resolver configuration asked writer stream =
      ⟨.error (.read fault), .ofRecords stream.next.records, writer⟩ := by
  rw [runFrom]
  split <;> simp_all

/-- A frame is handled after the lines before it are recorded. -/
theorem runFrom_of_frame {number : Nat} {address : Address}
    (brought : stream.next.item = some (.frame number address)) :
    runFrom resolver configuration asked writer stream =
      ((handle resolver configuration asked writer number address).proceed fun after =>
        runFrom resolver configuration (asked + 1) after stream.next.stream).after
          (.ofRecords stream.next.records) := by
  rw [runFrom]
  split <;> simp_all

/-- A run depends on its stream through the next pull only. -/
theorem runFrom_congr {other : FrameStream} (same : stream.next = other.next) :
    runFrom resolver configuration asked writer stream =
      runFrom resolver configuration asked writer other := by
  cases brought : other.next.item with
  | none => rw [runFrom_of_none (same ▸ brought), runFrom_of_none brought, same]
  | some item =>
    cases item with
    | frame number address =>
      rw [runFrom_of_frame (same ▸ brought), runFrom_of_frame brought, same]
    | fault fault => rw [runFrom_of_fault (same ▸ brought), runFrom_of_fault brought, same]

/-- A line that the next pull skips first is recorded first. -/
theorem runFrom_of_skipped {other : FrameStream} {record : Record}
    (skipped : stream.next = other.next.after record) :
    runFrom resolver configuration asked writer stream =
      (runFrom resolver configuration asked writer other).after (.ofRecords [record]) := by
  have items : stream.next.item = other.next.item := by rw [skipped]; rfl
  have streams : stream.next.stream = other.next.stream := by rw [skipped]; rfl
  have records : Activity.ofRecords stream.next.records =
      .ofRecords [record] ++ .ofRecords other.next.records := by rw [skipped]; rfl
  cases brought : other.next.item with
  | none =>
    rw [runFrom_of_none (items.trans brought), runFrom_of_none brought, streams, records,
      Run.after_after]
  | some item =>
    cases item with
    | frame number address =>
      rw [runFrom_of_frame (items.trans brought), runFrom_of_frame brought, streams, records,
        Run.after_after]
    | fault fault =>
      rw [runFrom_of_fault (items.trans brought), runFrom_of_fault brought, records]
      rfl

open Trace LineMachine

/-- Pulling frames and going line by line are the same run. -/
theorem runFrom_eq_overLines (input : List ReadEvent) (asked : Nat) (writer : σ)
    (number : Nat) (held : Bytes) :
    runFrom resolver configuration asked writer ⟨input, number, false, held⟩ =
      overLines resolver configuration (scan [] input).fault? asked writer number
        (scan [] input).completed := by
  induction input, number, held using FrameStream.pull_induction generalizing asked writer with
  | finished input number held rest pulled scanned =>
    rw [runFrom_of_none (by rw [pulled]), pulled, scanned]
    rfl
  | failed input number held part fault rest pulled scanned =>
    rw [runFrom_of_fault (by rw [pulled]), pulled, scanned]
    rfl
  | interrupted input number held part rest pulled scanned ih =>
    rw [scanned, ← ih]
    exact runFrom_congr pulled
  | noise input number held line rest noise pulled scanned ih =>
    rw [scanned, runFrom_of_skipped pulled, ih]
    exact (overLines_cons_of_none noise _).symm
  | frame input number held line rest address frame pulled scanned ih =>
    rw [scanned, runFrom_of_frame (by rw [pulled]), pulled]
    simp only [ih]
    exact (overLines_cons_of_some frame _).symm

/-- A run is the run over the lines that the machine completes. -/
theorem run_eq_overLines (input : List ReadEvent) :
    run resolver configuration writer input =
      overLines resolver configuration (scan [] input).fault? 0 writer 0
        (scan [] input).completed :=
  runFrom_eq_overLines input 0 writer 0 []

end Decoding
end Backtrace
