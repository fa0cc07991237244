import Backtrace.Trace.Input

/-!
# The line machine

An input read from left to right, one event at a time, with nothing kept but the lines completed
so far and the bytes of the line that is not. The machine is the reference for reading line by
line: it has no buffer that is used again, no loop over reads and no count. The laws here say
what each reading of a line is to the machine, that chunks may be cut anywhere, and that a line
once completed stays.
-/

namespace Backtrace.Trace

/-- Whether a line machine takes more events, and if not, why. -/
inductive Status where
  /-- More events are taken. -/
  | reading
  /-- The input came to its end. -/
  | finished
  /-- The input failed. -/
  | failed (fault : FinalFault)
deriving DecidableEq

/-- The state of reading an input. -/
structure LineMachine where
  /-- The completed lines in order, each with its line feed unless a pause completed it. -/
  completed : List Bytes
  /-- The bytes of the line that is not completed. -/
  held : Bytes
  /-- Whether more events are taken. -/
  status : Status
deriving DecidableEq

namespace LineMachine

/-- The machine that has completed no line and holds some bytes. -/
def holding (held : Bytes) : LineMachine := ⟨[], held, .reading⟩

/-- The machine with lines completed before its own. -/
def after (earlier : List Bytes) (machine : LineMachine) : LineMachine :=
  { machine with completed := earlier ++ machine.completed }

/-- One byte is held, and a line feed completes the line. -/
def take (machine : LineMachine) (byte : UInt8) : LineMachine :=
  if byte = lineFeed then
    { machine with completed := machine.completed ++ [machine.held ++ [byte]], held := [] }
  else { machine with held := machine.held ++ [byte] }

/-- A read of no bytes completes what is held as a line, or ends the input if nothing is. -/
def pause (machine : LineMachine) : LineMachine :=
  if machine.held = [] then { machine with status := .finished }
  else { machine with completed := machine.completed ++ [machine.held], held := [] }

/-- One event. An interruption that reaches the caller loses what is held, any other fault ends
the input and loses it too, and once the input has ended nothing changes. -/
def step (machine : LineMachine) (event : ReadEvent) : LineMachine :=
  match machine.status, event with
  | .reading, .bytes chunk => chunk.foldl take machine
  | .reading, .pause => machine.pause
  | .reading, .retry => machine
  | .reading, .abandon => { machine with held := [] }
  | .reading, .fault fault => { machine with held := [], status := .failed fault }
  | _, _ => machine

/-- All events of an input in order. -/
def run (machine : LineMachine) (input : List ReadEvent) : LineMachine := input.foldl step machine

/-- The end of a script, where every read brings no bytes: the first completes what is held, and
one more ends the input. -/
def close (machine : LineMachine) : LineMachine := (machine.step .pause).step .pause

/-- A whole input after some bytes that are held already. -/
def scan (held : Bytes) (input : List ReadEvent) : LineMachine := ((holding held).run input).close

/-- The texts of the completed lines, each read by itself and with its end. -/
def texts (machine : LineMachine) : List Text := machine.completed.map Utf8.decodeLossy

/-- The fault that ended the input, if one did. -/
def fault? (machine : LineMachine) : Option FinalFault :=
  match machine.status with
  | .failed fault => some fault
  | _ => none

/-- A chunk is taken byte by byte. -/
theorem step_bytes {machine : LineMachine} (reading : machine.status = .reading) (chunk : Bytes) :
    machine.step (.bytes chunk) = chunk.foldl take machine := by
  simp only [step, reading]

/-- Taking bytes never ends the input. -/
theorem status_foldl_take (chunk : Bytes) (machine : LineMachine) :
    (chunk.foldl take machine).status = machine.status := by
  induction chunk generalizing machine with
  | nil => rfl
  | cons byte rest ih =>
    rw [List.foldl_cons, ih]
    unfold take
    split <;> rfl

/-- Once the input has ended no event changes anything. -/
theorem step_of_ended {machine : LineMachine} (ended : machine.status ≠ .reading)
    (event : ReadEvent) : machine.step event = machine := by
  unfold step
  split <;> simp_all

/-- Once the input has ended the events that remain are not met. -/
theorem run_of_ended {machine : LineMachine} (ended : machine.status ≠ .reading)
    (input : List ReadEvent) : machine.run input = machine := by
  induction input with
  | nil => rfl
  | cons event events ih =>
    rw [run, List.foldl_cons, step_of_ended ended]
    exact ih

/-- Once the input has ended the end of the script changes nothing. -/
theorem close_of_ended {machine : LineMachine} (ended : machine.status ≠ .reading) :
    machine.close = machine := by
  rw [close, step_of_ended ended, step_of_ended ended]

/-- The end of a script ends an input that has not ended. -/
theorem status_close {machine : LineMachine} (reading : machine.status = .reading) :
    machine.close.status = .finished := by
  have still : machine.step .pause = machine.pause := by simp only [step, reading]
  rw [close, still, pause]
  split
  · simp [step]
  · simp [step, reading, pause]

/-- An input in two parts is read part after part. -/
theorem run_append (machine : LineMachine) (before after : List ReadEvent) :
    machine.run (before ++ after) = (machine.run before).run after :=
  List.foldl_append

/-- A chunk may be cut anywhere. -/
theorem step_bytes_append (machine : LineMachine) (front rest : Bytes) :
    machine.step (.bytes (front ++ rest)) = (machine.step (.bytes front)).step (.bytes rest) := by
  by_cases reading : machine.status = .reading
  · have still : (front.foldl take machine).status = .reading := by
      rw [status_foldl_take, reading]
    rw [step_bytes reading, step_bytes reading, step_bytes still, List.foldl_append]
  · rw [step_of_ended reading, step_of_ended reading, step_of_ended reading]

/-- The end of a script is no fault. -/
theorem fault?_close (machine : LineMachine) : machine.close.fault? = machine.fault? := by
  by_cases reading : machine.status = .reading
  · rw [fault?, fault?, status_close reading, reading]
  · rw [close_of_ended reading]

/-- An input that fails does so at a fault that the machine meets while it is reading. -/
theorem exists_fault_of_failed {input : List ReadEvent} {machine : LineMachine}
    {fault : FinalFault} (reading : machine.status = .reading)
    (failed : (machine.run input).status = .failed fault) :
    ∃ before after, input = before ++ .fault fault :: after ∧
      (machine.run before).status = .reading := by
  induction input generalizing machine with
  | nil => simp [run, reading] at failed
  | cons event events ih =>
    have first : machine.run (event :: events) = (machine.step event).run events := rfl
    rw [first] at failed
    by_cases still : (machine.step event).status = .reading
    · obtain ⟨before, after, rfl, held⟩ := ih still failed
      exact ⟨event :: before, after, rfl, held⟩
    · rw [run_of_ended still] at failed
      cases event with
      | bytes chunk =>
        rw [step_bytes reading, status_foldl_take] at still
        exact absurd reading still
      | pause =>
        simp only [step, reading, pause] at failed
        split at failed <;> simp_all
      | retry => simp_all [step]
      | abandon => simp_all [step]
      | fault other =>
        simp only [step, reading, Status.failed.injEq] at failed
        exact ⟨[], events, by rw [failed]; rfl, reading⟩

/-- A fault that the machine meets while it is reading ends the input, and the lines completed
are those before it. -/
theorem run_of_fault {machine : LineMachine} {before : List ReadEvent}
    (reading : (machine.run before).status = .reading) (fault : FinalFault)
    (after : List ReadEvent) :
    machine.run (before ++ .fault fault :: after) =
      ⟨(machine.run before).completed, [], .failed fault⟩ := by
  have met : (machine.run before).step (.fault fault) =
      ⟨(machine.run before).completed, [], .failed fault⟩ := by
    simp only [step, reading]
  have split : machine.run (before ++ .fault fault :: after) =
      ((machine.run before).step (.fault fault)).run after := run_append machine before _
  rw [split, met]
  exact run_of_ended (by simp) after

/-! ## Lines completed earlier

What a machine does depends on the bytes that it holds and on its status alone, so the lines it
completed earlier can be set aside and put back. -/

/-- A byte leaves the earlier lines where they are. -/
theorem take_after (earlier : List Bytes) (machine : LineMachine) (byte : UInt8) :
    (machine.after earlier).take byte = (machine.take byte).after earlier := by
  simp only [take, after]
  split <;> simp

/-- A chunk leaves the earlier lines where they are. -/
theorem foldl_take_after (earlier : List Bytes) (machine : LineMachine) (chunk : Bytes) :
    chunk.foldl take (machine.after earlier) = (chunk.foldl take machine).after earlier :=
  List.foldl_hom (after earlier) fun machine byte => take_after earlier machine byte

/-- An event leaves the earlier lines where they are. -/
theorem step_after (earlier : List Bytes) (machine : LineMachine) (event : ReadEvent) :
    (machine.after earlier).step event = (machine.step event).after earlier := by
  by_cases reading : machine.status = .reading
  · have same : (machine.after earlier).status = .reading := reading
    cases event with
    | bytes chunk => rw [step_bytes reading, step_bytes same, foldl_take_after]
    | pause =>
      simp only [step, reading, pause, after]
      split <;> simp
    | retry => simp only [step, reading, same]
    | abandon => simp only [step, reading, after]
    | fault fault => simp only [step, reading, after]
  · have same : (machine.after earlier).status ≠ .reading := reading
    rw [step_of_ended reading, step_of_ended same]

/-- An input leaves the earlier lines where they are. -/
theorem run_after (earlier : List Bytes) (machine : LineMachine) (input : List ReadEvent) :
    (machine.after earlier).run input = (machine.run input).after earlier :=
  List.foldl_hom (after earlier) fun machine event => step_after earlier machine event

/-- The end of a script leaves the earlier lines where they are. -/
theorem close_after (earlier : List Bytes) (machine : LineMachine) :
    (machine.after earlier).close = machine.close.after earlier := by
  rw [close, step_after, step_after, close]

/-- Completed lines stay completed, and more may follow them. -/
theorem completed_prefix_run (machine : LineMachine) (input : List ReadEvent) :
    machine.completed <+: (machine.run input).completed := by
  have aside : machine =
      LineMachine.after machine.completed ⟨[], machine.held, machine.status⟩ := by
    simp [after]
  rw [aside, run_after]
  simp [after]

end LineMachine
end Backtrace.Trace
