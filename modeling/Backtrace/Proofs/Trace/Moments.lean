import Backtrace.Proofs.Trace.LineMachine

/-!
# Moments of an input

A moment of an input is what has arrived by then: some of its events, and perhaps only some bytes
of the last chunk. Inputs that agree up to a moment bring the machine to the same state there,
and every number of completed lines up to the last is reached at some moment.
-/

namespace Backtrace.Trace

/-- An input with the read at its end, which brings no bytes. -/
def ended (input : List ReadEvent) : List ReadEvent := input ++ [.pause]

/-- An input that goes on from another one: with more events, or with more bytes in its last
chunk and then more events. -/
inductive Extends : List ReadEvent → List ReadEvent → Prop where
  /-- More events follow. -/
  | events (before after : List ReadEvent) : Extends before (before ++ after)
  /-- More bytes arrive with the last chunk, and more events follow. -/
  | chunk (before : List ReadEvent) (front rest : Bytes) (after : List ReadEvent) :
    Extends (before ++ [.bytes front]) (before ++ .bytes (front ++ rest) :: after)

open LineMachine

/-- An event before both inputs changes nothing about one going on from the other. -/
theorem Extends.cons {before input : List ReadEvent} (extended : Extends before input)
    (event : ReadEvent) : Extends (event :: before) (event :: input) := by
  cases extended with
  | events _ after => exact .events (event :: before) after
  | chunk earlier front rest after => exact .chunk (event :: earlier) front rest after

/-- The machine on an extended input goes on from where it was. -/
theorem run_of_extends {before input : List ReadEvent} (extended : Extends before input)
    (machine : LineMachine) : ∃ after, machine.run input = (machine.run before).run after := by
  cases extended with
  | events _ after => exact ⟨after, run_append machine before after⟩
  | chunk earlier front rest after =>
    refine ⟨.bytes rest :: after, ?_⟩
    have met : ∀ state : LineMachine, state.run (.bytes (front ++ rest) :: after) =
        (state.step (.bytes front)).run (.bytes rest :: after) := by
      intro state
      change (state.step (.bytes (front ++ rest))).run after = _
      rw [step_bytes_append]
      rfl
    rw [run_append, run_append, met]
    rfl

/-- A whole input goes on from each of its moments. -/
theorem scan_of_extends {before input : List ReadEvent} (extended : Extends before (ended input))
    (held : Bytes) : ∃ after, scan held input = ((holding held).run before).run after := by
  obtain ⟨after, onward⟩ := run_of_extends extended (holding held)
  refine ⟨after ++ [.pause], ?_⟩
  rw [run_append, ← onward, ended, run_append]
  rfl

/-- A byte completes one line at most. -/
theorem length_completed_take (machine : LineMachine) (byte : UInt8) :
    (machine.take byte).completed.length ≤ machine.completed.length + 1 := by
  unfold take
  split <;> simp

/-- An event that brings no bytes completes one line at most. -/
theorem length_completed_step {event : ReadEvent} (silent : ∀ chunk, event ≠ .bytes chunk)
    (machine : LineMachine) :
    (machine.step event).completed.length ≤ machine.completed.length + 1 := by
  by_cases reading : machine.status = .reading
  · cases event with
    | bytes chunk => exact absurd rfl (silent chunk)
    | pause =>
      simp only [step, reading, pause]
      split <;> simp
    | retry => simp [step, reading]
    | abandon => simp [step, reading]
    | fault fault => simp [step, reading]
  · rw [step_of_ended reading]
    omega

/-- Within a chunk no number of completed lines is passed over. -/
theorem exists_front_of_length {machine : LineMachine} {chunk : Bytes} {count : Nat}
    (low : machine.completed.length ≤ count)
    (high : count ≤ (chunk.foldl take machine).completed.length) :
    ∃ front rest, chunk = front ++ rest ∧ (front.foldl take machine).completed.length = count := by
  induction chunk generalizing machine with
  | nil => exact ⟨[], [], rfl, Nat.le_antisymm low high⟩
  | cons byte others ih =>
    by_cases same : machine.completed.length = count
    · exact ⟨[], byte :: others, rfl, same⟩
    · have bound := length_completed_take machine byte
      obtain ⟨front, rest, rfl, reached⟩ := ih (by omega) high
      exact ⟨byte :: front, rest, rfl, reached⟩

/-- No number of completed lines is passed over. -/
theorem exists_moment_of_length {machine : LineMachine} {input : List ReadEvent} {count : Nat}
    (low : machine.completed.length ≤ count)
    (high : count ≤ (machine.run input).completed.length) :
    ∃ before, Extends before input ∧ (machine.run before).completed.length = count := by
  induction input generalizing machine with
  | nil => exact ⟨[], .events [] [], Nat.le_antisymm low high⟩
  | cons event events ih =>
    by_cases same : machine.completed.length = count
    · exact ⟨[], .events [] _, same⟩
    by_cases later : (machine.step event).completed.length ≤ count
    · obtain ⟨before, extended, reached⟩ := ih later high
      exact ⟨event :: before, extended.cons event, reached⟩
    -- Only a chunk completes more than one line, and the moment lies inside it.
    · have loud : ¬ ∀ chunk, event ≠ .bytes chunk := by
        intro silent
        have bound := length_completed_step silent machine
        omega
      obtain ⟨chunk, rfl⟩ : ∃ chunk, event = .bytes chunk := by
        simpa only [ne_eq, Classical.not_forall, Classical.not_not] using loud
      have reading : machine.status = .reading := by
        refine Decidable.byContradiction fun ended => ?_
        rw [step_of_ended ended] at later
        exact later low
      rw [step_bytes reading] at later
      obtain ⟨front, rest, rfl, reached⟩ := exists_front_of_length low (Nat.le_of_not_le later)
      refine ⟨[.bytes front], .chunk [] front rest events, ?_⟩
      change (machine.step (.bytes front)).completed.length = count
      rw [step_bytes reading, reached]

/-- The read at the end of an input completes all that is completed. -/
theorem completed_close (machine : LineMachine) :
    machine.close.completed = (machine.step .pause).completed := by
  by_cases reading : machine.status = .reading
  · have still : machine.step .pause = machine.pause := by simp only [step, reading]
    rw [close, still, pause]
    split
    · simp [step]
    · simp [step, reading, pause]
  · rw [close_of_ended reading, step_of_ended reading]

/-- For each part of the completed lines there is the moment at which it is what is completed. -/
theorem exists_moment_of_prefix {input : List ReadEvent} {lines : List Bytes}
    (part : lines <+: (scan [] input).completed) :
    ∃ before, Extends before (ended input) ∧ ((holding []).run before).completed = lines := by
  have whole : (scan [] input).completed = ((holding []).run (ended input)).completed := by
    rw [scan, completed_close, ended, run_append]
    rfl
  rw [whole] at part
  obtain ⟨before, extended, reached⟩ := exists_moment_of_length (Nat.zero_le _) part.length_le
  obtain ⟨after, onward⟩ := run_of_extends extended (holding [])
  have kept : ((holding []).run before).completed <+:
      ((holding []).run (ended input)).completed := by
    rw [onward]
    exact completed_prefix_run _ after
  have within := List.prefix_of_prefix_length_le kept part (Nat.le_of_eq reached)
  exact ⟨before, extended, within.eq_of_length reached⟩

end Backtrace.Trace
