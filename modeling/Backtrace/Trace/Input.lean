import Backtrace.Fault
import Backtrace.Text.Utf8

/-!
# Input of a trace

An input is the finite list of what its reader meets: bytes in chunks that may be cut anywhere,
reads of no bytes, interruptions and faults. Reading a line takes bytes up to and with the next
line feed. The laws say how much of the input one line takes.
-/

namespace Backtrace

/-- What the reader of an input meets next. -/
inductive ReadEvent where
  /-- These bytes arrive. -/
  | bytes (chunk : Bytes)
  /-- A read of no bytes: the end, as far as the reader can tell. -/
  | pause
  /-- An interrupted read, which the reader repeats. -/
  | retry
  /-- An interruption that reaches the caller: the bytes taken for the line are gone. -/
  | abandon
  /-- Any other fault. -/
  | fault (fault : FinalFault)
deriving DecidableEq

/-- A fault as the reader meets it: an interrupted read is repeated. -/
def ReadEvent.ofFault (fault : Fault) : ReadEvent :=
  if final : fault.isInterruption = false then .fault ⟨fault, final⟩ else .retry

/-- The result of reading one line. -/
inductive Reading where
  /-- A line, with its line feed unless the input paused first; never empty. -/
  | line (bytes : Bytes)
  /-- The input is at its end. -/
  | finished
  /-- The reading was interrupted when it had taken some bytes of a line. -/
  | interrupted (part : Bytes)
  /-- The reading failed when it had taken some bytes of a line. -/
  | failed (part : Bytes) (fault : FinalFault)
deriving DecidableEq

namespace Trace

/-- The bytes up to and with the first line feed, and those after it. -/
def splitLine? : Bytes → Option (Bytes × Bytes)
  | [] => none
  | byte :: rest =>
    if byte = lineFeed then some ([byte], rest)
    else (splitLine? rest).map fun parts => (byte :: parts.1, parts.2)

/-- What is read where the input pauses: the bytes held, or its end if there are none. -/
def atPause (held : Bytes) : Reading := if held = [] then .finished else .line held

/-- One line of the input after the bytes held already, and the input that is left. -/
def readLine (held : Bytes) : List ReadEvent → Reading × List ReadEvent
  | [] => (atPause held, [])
  | .bytes chunk :: events =>
    match splitLine? chunk with
    | some (line, rest) => (.line (held ++ line), .bytes rest :: events)
    | none => readLine (held ++ chunk) events
  | .pause :: events => (atPause held, events)
  | .retry :: events => readLine held events
  | .abandon :: events => (.interrupted held, events)
  | .fault fault :: events => (.failed held fault, events)

/-- The number of bytes and events that an input consists of. -/
def weight : List ReadEvent → Nat
  | [] => 0
  | .bytes chunk :: events => chunk.length + 1 + weight events
  | _ :: events => 1 + weight events

/-- A line and what follows it make up the chunk. -/
theorem splitLine?_append {chunk line rest : Bytes} (split : splitLine? chunk = some (line, rest)) :
    line ++ rest = chunk := by
  induction chunk generalizing line with
  | nil => simp [splitLine?] at split
  | cons byte others ih =>
    simp only [splitLine?] at split
    split at split
    · obtain ⟨rfl, rfl⟩ := Prod.mk.inj (Option.some.inj split)
      rfl
    · obtain ⟨parts, inner, same⟩ := Option.map_eq_some_iff.1 split
      obtain ⟨rfl, rfl⟩ := Prod.mk.inj same
      simp [ih inner]

/-- A split line is not empty. -/
theorem splitLine?_ne_nil {chunk line rest : Bytes} (split : splitLine? chunk = some (line, rest)) :
    line ≠ [] := by
  cases chunk with
  | nil => simp [splitLine?] at split
  | cons byte others =>
    simp only [splitLine?] at split
    split at split
    · rw [← (Prod.mk.inj (Option.some.inj split)).1]
      simp
    · obtain ⟨parts, _, same⟩ := Option.map_eq_some_iff.1 split
      rw [← (Prod.mk.inj same).1]
      simp

/-- A line read where the input pauses is what was held, and not empty. -/
theorem atPause_line {held bytes : Bytes} (read : atPause held = .line bytes) :
    bytes ≠ [] ∧ bytes = held := by
  unfold atPause at read
  split at read
  · simp at read
  · obtain rfl := Reading.line.inj read
    exact ⟨‹_›, rfl⟩

/-- Where the input pauses nothing is cut off. -/
theorem atPause_not_cut {held : Bytes} {reading : Reading} (read : atPause held = reading) :
    ¬ ((∃ part, reading = .interrupted part) ∨ ∃ part fault, reading = .failed part fault) := by
  unfold atPause at read
  split at read <;> simp [← read]

/-- A line that is read is not empty, and its bytes are gone from the input. -/
theorem weight_of_line {held bytes : Bytes} {events rest : List ReadEvent}
    (read : readLine held events = (.line bytes, rest)) :
    bytes ≠ [] ∧ bytes.length + weight rest ≤ held.length + weight events := by
  fun_induction readLine held events with
  | case1 held =>
    obtain ⟨same, rfl⟩ := Prod.mk.inj read
    exact ⟨(atPause_line same).1, by simp [(atPause_line same).2]⟩
  | case2 held chunk events line tail split =>
    obtain ⟨rfl, rfl⟩ := by simpa using read
    have parts := congrArg List.length (splitLine?_append split)
    simp only [List.length_append] at parts
    refine ⟨by simp [splitLine?_ne_nil split], ?_⟩
    simp only [weight, List.length_append]
    omega
  | case3 held chunk events split ih =>
    obtain ⟨nonempty, bound⟩ := ih read
    simp only [weight, List.length_append] at bound ⊢
    exact ⟨nonempty, by omega⟩
  | case4 held events =>
    obtain ⟨same, rfl⟩ := Prod.mk.inj read
    refine ⟨(atPause_line same).1, ?_⟩
    simp only [weight, (atPause_line same).2]
    omega
  | case5 held events ih =>
    obtain ⟨nonempty, bound⟩ := ih read
    simp only [weight]
    exact ⟨nonempty, by omega⟩
  | case6 => simp at read
  | case7 => simp at read

/-- An interrupted or failed reading takes at least one event. -/
theorem weight_of_cut {held : Bytes} {events rest : List ReadEvent} {reading : Reading}
    (read : readLine held events = (reading, rest))
    (cut : (∃ part, reading = .interrupted part) ∨ ∃ part fault, reading = .failed part fault) :
    weight rest < weight events := by
  fun_induction readLine held events with
  | case1 held =>
    obtain ⟨same, -⟩ := Prod.mk.inj read
    exact absurd cut (atPause_not_cut same)
  | case2 held chunk events line tail split =>
    obtain ⟨same, -⟩ := Prod.mk.inj read
    subst same
    simp at cut
  | case3 held chunk events split ih =>
    have bound := ih read
    simp only [weight]
    omega
  | case4 held events =>
    obtain ⟨same, -⟩ := Prod.mk.inj read
    exact absurd cut (atPause_not_cut same)
  | case5 held events ih =>
    have bound := ih read
    simp only [weight]
    omega
  | case6 held events =>
    obtain ⟨-, rfl⟩ := Prod.mk.inj read
    simp [weight]
  | case7 held fault events =>
    obtain ⟨-, rfl⟩ := Prod.mk.inj read
    simp [weight]

end Trace
end Backtrace
