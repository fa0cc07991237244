import Backtrace.Fault
import Backtrace.Text.Utf8

/-!
# Writers

Where output goes. A writer takes bytes, all that it is given or some from the front, and passes
on what it holds back when it is flushed. It may look at the bytes, keep count, fail and recover.
Writing everything repeats writes until all bytes are taken or one write fails; a write that is
interrupted is made again. A writer that would be interrupted forever is left out, since writing
to it never ends.
-/

namespace Backtrace

/-- Anything that bytes can be written to, by the states that it can be in. -/
class Writer (σ : Type) where
  /-- One write: how many bytes are taken from the front, and the writer after it. -/
  write : σ → Bytes → Except Fault Nat × σ
  /-- Passes on what is held back. -/
  flush : σ → Except Fault Unit × σ
  /-- A bound on how often in a row the write of some bytes is interrupted. -/
  patience : σ → Bytes → Nat
  /-- No more bytes are taken than were given. -/
  taken_le {writer after : σ} {bytes : Bytes} {taken : Nat}
    (met : write writer bytes = (.ok taken, after)) : taken ≤ bytes.length
  /-- Interruptions in a row come to an end. -/
  patience_lt {writer after : σ} {bytes : Bytes} {fault : Fault}
    (met : write writer bytes = (.error fault, after)) (interrupted : fault.isInterruption = true) :
    patience after bytes < patience writer bytes

/-- What became of bytes that were to be written in whole. -/
structure Written (σ : Type) where
  /-- The bytes that were taken. -/
  taken : Bytes
  /-- Why not all of them were, if so. -/
  result : Except Fault Unit
  /-- The writer after them. -/
  writer : σ

namespace Written

variable {σ : Type}

/-- What was written after some other bytes, with these. -/
def following (earlier : Bytes) (written : Written σ) : Written σ :=
  { written with taken := earlier ++ written.taken }

/-- Writing goes on if it has not failed. -/
def andThen (first : Written σ) (next : σ → Written σ) : Written σ :=
  match first.result with
  | .error _ => first
  | .ok () => (next first.writer).following first.taken

end Written

namespace Writer

variable {σ : Type} [Writer σ]

/-- Writes all bytes. A write that takes no byte of some fails with the given fault. -/
def writeOut (stall : Fault) (writer : σ) (bytes : Bytes) : Written σ :=
  if bytes = [] then ⟨[], .ok (), writer⟩
  else
    match met : write writer bytes with
    | (.error fault, after) =>
      if fault.isInterruption then writeOut stall after bytes else ⟨[], .error fault, after⟩
    | (.ok 0, after) => ⟨[], .error stall, after⟩
    | (.ok (taken + 1), after) =>
      (writeOut stall after (bytes.drop (taken + 1))).following (bytes.take (taken + 1))
termination_by (bytes.length, patience writer bytes)
decreasing_by
  · exact .right _ (patience_lt met ‹_›)
  · have := List.length_pos_iff.2 ‹¬ bytes = []›
    simp only [List.length_drop]
    exact .left _ _ (by omega)

/-- Writes all bytes, as a program does that prints them. -/
def writeAll (writer : σ) (bytes : Bytes) : Written σ := writeOut .shortWrite writer bytes

variable {stall : Fault} {writer after : σ} {bytes : Bytes}

/-- Nothing is written by writing no bytes. -/
@[simp] theorem writeOut_nil : writeOut stall writer [] = ⟨[], .ok (), writer⟩ := by
  rw [writeOut, if_pos rfl]

/-- A write that fails is the last. -/
theorem writeOut_of_error (nonempty : bytes ≠ []) {fault : Fault}
    (met : write writer bytes = (.error fault, after)) (final : fault.isInterruption = false) :
    writeOut stall writer bytes = ⟨[], .error fault, after⟩ := by
  rw [writeOut, if_neg nonempty]
  split <;> simp_all

/-- A write that takes nothing is the last. -/
theorem writeOut_of_stalled (nonempty : bytes ≠ []) (met : write writer bytes = (.ok 0, after)) :
    writeOut stall writer bytes = ⟨[], .error stall, after⟩ := by
  rw [writeOut, if_neg nonempty]
  split <;> simp_all

/-- What is left after a write that takes some bytes is written after it. -/
theorem writeOut_of_taken {taken : Nat} (taking : 0 < taken)
    (met : write writer bytes = (.ok taken, after)) :
    writeOut stall writer bytes =
      (writeOut stall after (bytes.drop taken)).following (bytes.take taken) := by
  have nonempty : bytes ≠ [] := by
    rintro rfl
    exact absurd (taken_le met) (Nat.not_le.2 taking)
  rw [writeOut, if_neg nonempty]
  split <;> simp_all

/-- Where writing everything does not fail, everything is taken. -/
theorem taken_of_ok (ended : (writeOut stall writer bytes).result = .ok ()) :
    (writeOut stall writer bytes).taken = bytes := by
  fun_induction writeOut stall writer bytes with
  | case1 => rfl
  | case2 writer bytes _ _ after _ _ ih => exact ih ended
  | case3 => simp at ended
  | case4 => simp at ended
  | case5 writer bytes _ taken after _ ih =>
    exact (congrArg _ (ih ended)).trans (List.take_append_drop (taken + 1) bytes)

/-- Writing everything is never ended by an interruption. -/
theorem final_of_writeOut {fault : Fault} (final : stall.isInterruption = false)
    (failed : (writeOut stall writer bytes).result = .error fault) :
    fault.isInterruption = false := by
  fun_induction writeOut stall writer bytes with
  | case1 => simp at failed
  | case2 writer bytes _ _ after _ _ ih => exact ih failed
  | case3 writer bytes _ other after _ settled =>
    rw [← Except.error.inj failed]
    simpa using settled
  | case4 => rwa [← Except.error.inj failed]
  | case5 writer bytes _ taken after _ ih => exact ih failed

end Writer
end Backtrace
