import Backtrace.Writer

/-!
# Sinks

The plainest writers. A sink takes all bytes, or a limited number in all; a write that does not
fit is taken in part, and one that finds no room at all is refused. It holds nothing back.
-/

namespace Backtrace

/-- The state of an output that only counts bytes. -/
structure Sink where
  /-- How many more bytes it takes; none means any number. -/
  room : Option Nat
  /-- The fault of a write that finds no room; without one the write takes no byte. -/
  refusal : Option FinalFault
  /-- The fault of flushing, if flushing fails. -/
  flushFault : Option Fault
deriving DecidableEq

namespace Sink

/-- A sink that takes everything. -/
def unlimited : Sink := ⟨none, none, none⟩

/-- One write of a number of bytes: how many are taken, and the sink after it. -/
def write (sink : Sink) (count : Nat) : Except Fault Nat × Sink :=
  match sink.room with
  | none => (.ok count, sink)
  | some 0 =>
    match sink.refusal with
    | some fault => (.error fault, sink)
    | none => (.ok 0, sink)
  | some (room + 1) =>
    (.ok (min count (room + 1)), { sink with room := some (room + 1 - min count (room + 1)) })

/-- The outcome of flushing. -/
def flush (sink : Sink) : Except Fault Unit :=
  match sink.flushFault with
  | some fault => .error fault
  | none => .ok ()

/-- A sink takes no more than it is given. -/
theorem taken_le_of_write {sink after : Sink} {count taken : Nat}
    (met : sink.write count = (.ok taken, after)) : taken ≤ count := by
  unfold write at met
  split at met
  · obtain ⟨same, -⟩ := Prod.mk.inj met
    exact Nat.le_of_eq (Except.ok.inj same).symm
  · split at met
    · simp at met
    · obtain ⟨same, -⟩ := Prod.mk.inj met
      exact Nat.le_trans (Nat.le_of_eq (Except.ok.inj same).symm) (Nat.zero_le count)
  · obtain ⟨same, -⟩ := Prod.mk.inj met
    exact Nat.le_trans (Nat.le_of_eq (Except.ok.inj same).symm) (Nat.min_le_left _ _)

/-- No write to a sink is interrupted. -/
theorem final_of_write {sink after : Sink} {count : Nat} {fault : Fault}
    (met : sink.write count = (.error fault, after)) : fault.isInterruption = false := by
  unfold write at met
  split at met
  · simp at met
  · split at met
    · rename_i refusal _
      obtain ⟨same, -⟩ := Prod.mk.inj met
      rw [← Except.error.inj same]
      exact refusal.property
    · simp at met
  · simp at met

instance : Writer Sink where
  write sink bytes := sink.write bytes.length
  flush sink := (sink.flush, sink)
  patience _ _ := 0
  taken_le met := taken_le_of_write met
  patience_lt met interrupted := by
    rw [final_of_write met] at interrupted
    contradiction

end Sink
end Backtrace
