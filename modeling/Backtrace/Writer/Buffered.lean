import Backtrace.Writer

/-!
# Buffered writers

A writer that gathers bytes before it passes them on to another one. Bytes are held as long as
there is room for more of them; bytes that fill the whole buffer by themselves go to the inner
writer at once, after what is held. Closing the buffer passes on what it holds, and nobody is told
if that fails.
-/

namespace Backtrace

/-- A writer with a buffer of some size before it. -/
structure Buffered (size : Nat) (σ : Type) where
  /-- The writer behind the buffer. -/
  inner : σ
  /-- The bytes that are held. -/
  held : Bytes
deriving DecidableEq

namespace Buffered

variable {size : Nat} {σ : Type}

/-- A writer behind an empty buffer. -/
def new (inner : σ) : Buffered size σ := ⟨inner, []⟩

/-- The number of bytes that can still be held. -/
def spare (buffered : Buffered size σ) : Nat := size - buffered.held.length

/-- Holds more bytes. -/
def hold (buffered : Buffered size σ) (bytes : Bytes) : Buffered size σ :=
  { buffered with held := buffered.held ++ bytes }

variable [Writer σ]

/-- Passes on what is held, as far as the inner writer takes it. -/
def passOn (buffered : Buffered size σ) : Except Fault Unit × Buffered size σ :=
  let written := Writer.writeOut .shortFlush buffered.inner buffered.held
  (written.result, ⟨written.writer, buffered.held.drop written.taken.length⟩)

/-- Makes room for a number of bytes by passing on what is held, if there is too little. -/
def makeRoom (buffered : Buffered size σ) (count : Nat) : Except Fault Unit × Buffered size σ :=
  if buffered.spare < count then buffered.passOn else (.ok (), buffered)

/-- One write. -/
def write (buffered : Buffered size σ) (bytes : Bytes) : Except Fault Nat × Buffered size σ :=
  if bytes.length < buffered.spare then (.ok bytes.length, buffered.hold bytes)
  else
    match buffered.makeRoom bytes.length with
    | (.error fault, after) => (.error fault, after)
    | (.ok (), after) =>
      if size ≤ bytes.length then
        let direct := Writer.write after.inner bytes
        (direct.1, { after with inner := direct.2 })
      else (.ok bytes.length, after.hold bytes)

/-- Passes on what is held, and has the inner writer do the same. -/
def flush (buffered : Buffered size σ) : Except Fault Unit × Buffered size σ :=
  match buffered.passOn with
  | (.error fault, after) => (.error fault, after)
  | (.ok (), after) =>
    let flushed := Writer.flush after.inner
    (flushed.1, { after with inner := flushed.2 })

/-- Passing on is never ended by an interruption. -/
theorem final_of_passOn {buffered after : Buffered size σ} {fault : Fault}
    (failed : buffered.passOn = (.error fault, after)) : fault.isInterruption = false :=
  Writer.final_of_writeOut (by decide) (Prod.mk.inj failed).1

/-- Nothing is held after all of it is passed on. -/
theorem held_of_passOn {buffered after : Buffered size σ}
    (passed : buffered.passOn = (.ok (), after)) : after.held = [] := by
  obtain ⟨ended, rfl⟩ := Prod.mk.inj passed
  dsimp only
  rw [Writer.taken_of_ok ended, List.drop_length]

/-- Where nothing is held there is nothing to pass on. -/
theorem passOn_of_empty {buffered : Buffered size σ} (empty : buffered.held = []) :
    buffered.passOn = (.ok (), buffered) := by
  obtain ⟨inner, held⟩ := buffered
  obtain rfl : held = [] := empty
  simp only [passOn, Writer.writeOut_nil, List.drop_nil]

/-- Where nothing is held there is no more room to make. -/
theorem makeRoom_of_empty {buffered : Buffered size σ} (empty : buffered.held = []) (count : Nat) :
    buffered.makeRoom count = (.ok (), buffered) := by
  unfold makeRoom
  split
  · exact passOn_of_empty empty
  · rfl

/-- Nothing is held after room is made for bytes that do not fit next to others. -/
theorem held_of_makeRoom {buffered after : Buffered size σ} {count : Nat} (some : 0 < count)
    (large : size ≤ count) (made : buffered.makeRoom count = (.ok (), after)) :
    after.held = [] := by
  unfold makeRoom at made
  split at made
  · exact held_of_passOn made
  · rename_i fits
    obtain ⟨-, rfl⟩ := Prod.mk.inj made
    apply List.eq_nil_of_length_eq_zero
    unfold spare at fits
    omega

/-- Once there is room there is no more to make, whatever becomes of the inner writer. -/
theorem makeRoom_again {buffered after : Buffered size σ} {count : Nat}
    (made : buffered.makeRoom count = (.ok (), after)) (inner : σ) :
    let other : Buffered size σ := { after with inner := inner }
    other.makeRoom count = (.ok (), other) := by
  intro other
  unfold makeRoom at made
  split at made
  · have empty : after.held = [] := held_of_passOn made
    exact @makeRoom_of_empty size σ _ other empty count
  · rename_i fits
    obtain ⟨-, rfl⟩ := Prod.mk.inj made
    exact if_neg fits

/-- How often in a row a write to the inner writer can be interrupted. -/
def patience (buffered : Buffered size σ) (bytes : Bytes) : Nat :=
  Writer.patience (buffered.makeRoom bytes.length).2.inner bytes

/-- A buffer takes no more than it is given. -/
theorem taken_le_of_write {buffered after : Buffered size σ} {bytes : Bytes} {taken : Nat}
    (met : buffered.write bytes = (.ok taken, after)) : taken ≤ bytes.length := by
  unfold write at met
  split at met
  · exact Nat.le_of_eq (Except.ok.inj (Prod.mk.inj met).1).symm
  · split at met
    · simp at met
    · split at met
      · exact Writer.taken_le (Prod.ext (Prod.mk.inj met).1 rfl)
      · exact Nat.le_of_eq (Except.ok.inj (Prod.mk.inj met).1).symm

/-- A write is interrupted only by the inner writer, whose patience it uses up. -/
theorem patience_lt_of_write {buffered after : Buffered size σ} {bytes : Bytes} {fault : Fault}
    (met : buffered.write bytes = (.error fault, after))
    (interrupted : fault.isInterruption = true) :
    after.patience bytes < buffered.patience bytes := by
  unfold write at met
  split at met
  · simp at met
  · cases made : buffered.makeRoom bytes.length with | mk result middle =>
    rw [made] at met
    cases result with
    | error other =>
      -- Making room fails only as passing on does.
      obtain ⟨same, -⟩ := Prod.mk.inj met
      obtain rfl := Except.error.inj same
      unfold makeRoom at made
      split at made
      · rw [final_of_passOn made] at interrupted
        contradiction
      · simp at made
    | ok =>
      dsimp only at met
      split at met
      · -- The inner writer was asked once, and the room that was made for it stays.
        obtain ⟨failed, rfl⟩ := Prod.mk.inj met
        simp only [patience, made, makeRoom_again made]
        exact Writer.patience_lt (Prod.ext failed rfl) interrupted
      · simp at met

instance : Writer (Buffered size σ) where
  write := write
  flush := flush
  patience := patience
  taken_le := taken_le_of_write
  patience_lt := patience_lt_of_write

/-- The writer behind the buffer, once the buffer is given up. -/
def close (buffered : Buffered size σ) : σ := buffered.passOn.2.inner

end Buffered
end Backtrace
