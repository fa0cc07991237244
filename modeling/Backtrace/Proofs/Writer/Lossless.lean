import Backtrace.Writer.Buffered
import Backtrace.Writer.StandardOutput

/-!
# Writers that lose nothing

A writer that never fails and takes some of whatever it is given has contents: all bytes that it
took, in order, whether they are passed on or held back. Writing adds to the contents exactly what
is written, in however many writes, and flushing leaves them as they are. A buffer before such a
writer is one too, and so is standard output.
-/

namespace Backtrace

/-- A writer that never fails and keeps what it takes. -/
class Lossless (σ : Type) [Writer σ] where
  /-- The bytes taken so far, passed on or held back. -/
  contents : σ → Bytes
  /-- A write takes some bytes from the front. -/
  exists_write (writer : σ) {bytes : Bytes} (nonempty : bytes ≠ []) :
    ∃ taken after, 0 < taken ∧ Writer.write writer bytes = (.ok taken, after) ∧
      contents after = contents writer ++ bytes.take taken
  /-- Flushing keeps the contents. -/
  exists_flush (writer : σ) :
    ∃ after, Writer.flush writer = (.ok (), after) ∧ contents after = contents writer

namespace Lossless

variable {σ : Type} [Writer σ] [Lossless σ]

/-- All bytes are taken. -/
theorem exists_writeOut (stall : Fault) (writer : σ) (bytes : Bytes) :
    ∃ after, Writer.writeOut stall writer bytes = ⟨bytes, .ok (), after⟩ ∧
      contents after = contents writer ++ bytes := by
  -- A write may take any number of bytes but none, so the induction is on what is left.
  induction size : bytes.length using Nat.strongRecOn generalizing writer bytes with
  | _ size shorter =>
    subst size
    by_cases nonempty : bytes = []
    · subst nonempty
      exact ⟨writer, Writer.writeOut_nil, (List.append_nil _).symm⟩
    · obtain ⟨taken, middle, taking, met, kept⟩ := exists_write writer nonempty
      have fewer : (bytes.drop taken).length < bytes.length := by
        have positive := List.length_pos_iff.2 nonempty
        rw [List.length_drop]
        omega
      obtain ⟨after, rest, whole⟩ := shorter _ fewer middle (bytes.drop taken) rfl
      refine ⟨after, ?_, ?_⟩
      · rw [Writer.writeOut_of_taken taking met, rest, Written.following]
        simp only [List.take_append_drop]
      · rw [whole, kept, List.append_assoc, List.take_append_drop]

end Lossless

namespace Buffered

variable {size : Nat} {σ : Type} [Writer σ] [Lossless σ]

/-- What the inner writer took, and what is held before it. -/
def contents (buffered : Buffered size σ) : Bytes :=
  Lossless.contents buffered.inner ++ buffered.held

/-- Passing on what is held keeps the contents, and nothing is held after it. -/
theorem exists_passOn (buffered : Buffered size σ) :
    ∃ inner, buffered.passOn = (.ok (), ⟨inner, []⟩) ∧
      Lossless.contents inner = buffered.contents := by
  obtain ⟨inner, written, kept⟩ :=
    Lossless.exists_writeOut .shortFlush buffered.inner buffered.held
  refine ⟨inner, ?_, kept⟩
  unfold passOn
  rw [written]
  simp only [List.drop_length]

/-- Making room keeps the contents. -/
theorem exists_makeRoom (buffered : Buffered size σ) (count : Nat) :
    ∃ after, buffered.makeRoom count = (.ok (), after) ∧ after.contents = buffered.contents := by
  unfold makeRoom
  split
  · obtain ⟨inner, passed, kept⟩ := exists_passOn buffered
    refine ⟨⟨inner, []⟩, passed, ?_⟩
    rw [contents, List.append_nil, kept]
  · exact ⟨buffered, rfl, rfl⟩

/-- Bytes that are held are added to the contents. -/
theorem contents_hold (buffered : Buffered size σ) (bytes : Bytes) :
    (buffered.hold bytes).contents = buffered.contents ++ bytes := by
  simp only [contents, hold, List.append_assoc]

/-- Flushing a buffer before a writer that loses nothing keeps the contents. -/
theorem exists_flush (buffered : Buffered size σ) :
    ∃ after, buffered.flush = (.ok (), after) ∧ after.contents = buffered.contents := by
  obtain ⟨inner, passed, kept⟩ := exists_passOn buffered
  obtain ⟨after, flushed, same⟩ := Lossless.exists_flush inner
  refine ⟨⟨after, []⟩, ?_, ?_⟩
  · unfold flush
    rw [passed]
    dsimp only
    rw [flushed]
  · rw [contents, List.append_nil, same, kept]

/-- A write to a buffer before a writer that loses nothing takes some bytes. -/
theorem exists_write (buffered : Buffered size σ) {bytes : Bytes} (nonempty : bytes ≠ []) :
    ∃ taken after, 0 < taken ∧ buffered.write bytes = (.ok taken, after) ∧
      after.contents = buffered.contents ++ bytes.take taken := by
  have positive := List.length_pos_iff.2 nonempty
  unfold write
  split
  · refine ⟨bytes.length, buffered.hold bytes, positive, rfl, ?_⟩
    rw [contents_hold, List.take_length]
  · obtain ⟨middle, made, kept⟩ := exists_makeRoom buffered bytes.length
    rw [made]
    dsimp only
    split
    · rename_i large
      -- The bytes pass by the buffer, which holds nothing any more.
      have empty : middle.held = [] := held_of_makeRoom positive large made
      obtain ⟨taken, inner, taking, met, added⟩ := Lossless.exists_write middle.inner nonempty
      refine ⟨taken, ⟨inner, middle.held⟩, taking, by rw [met], ?_⟩
      rw [← kept, contents, contents, empty, List.append_nil, List.append_nil, added]
    · refine ⟨bytes.length, middle.hold bytes, positive, rfl, ?_⟩
      rw [contents_hold, kept, List.take_length]

instance : Lossless (Buffered size σ) where
  contents := contents
  exists_write := exists_write
  exists_flush := exists_flush

/-- What a buffer holds when it is given up is not lost. -/
theorem contents_close (buffered : Buffered size σ) :
    Lossless.contents buffered.close = Lossless.contents buffered := by
  obtain ⟨inner, passed, kept⟩ := exists_passOn buffered
  rw [close, passed]
  exact kept

end Buffered

instance : Lossless Outside where
  contents := Outside.received
  exists_write outside bytes nonempty := by
    refine ⟨bytes.length, outside.receive bytes, List.length_pos_iff.2 nonempty, rfl, ?_⟩
    rw [List.take_length]
    rfl
  exists_flush outside := ⟨outside, rfl, rfl⟩

namespace StandardOutput

/-- What the outside has after all that is held is passed on is what was taken. -/
theorem received_release (output : StandardOutput) :
    output.release.buffer.inner.received = output.buffer.contents := by
  obtain ⟨outside, passed, kept⟩ := Buffered.exists_passOn output.buffer
  rw [release, passed]
  exact kept

/-- A write takes whole lines and what is held after them, or the start of a line. -/
theorem exists_write (output : StandardOutput) {bytes : Bytes} (nonempty : bytes ≠ []) :
    ∃ taken after, 0 < taken ∧ output.write bytes = (.ok taken, after) ∧
      after.buffer.contents = output.buffer.contents ++ bytes.take taken := by
  have whole : wholeLines bytes ++ bytes.drop (wholeLines bytes).length = bytes :=
    List.prefix_iff_eq_append.1 (wholeLines_front bytes)
  have passed : output.release.buffer.inner.received ++ wholeLines bytes =
      output.buffer.contents ++ wholeLines bytes := by
    rw [received_release]
  unfold write
  dsimp only
  split
  · obtain ⟨taken, after, taking, met, kept⟩ := Buffered.exists_write output.buffer nonempty
    exact ⟨taken, ⟨after⟩, taking, by rw [met], kept⟩
  · rename_i some
    -- What follows the whole lines is held, or left to another write.
    split
    · refine ⟨bytes.length, _, List.length_pos_iff.2 nonempty, rfl, ?_⟩
      rw [List.take_length]
      exact (congrArg (· ++ _) passed).trans (by rw [List.append_assoc, whole])
    · refine ⟨(wholeLines bytes).length, _, List.length_pos_iff.2 some, rfl, ?_⟩
      rw [← List.prefix_iff_eq_take.1 (wholeLines_front bytes)]
      exact (List.append_nil _).trans passed

/-- Flushing passes on what is held. -/
theorem exists_flush (output : StandardOutput) :
    ∃ after, output.flush = (.ok (), after) ∧
      after.buffer.contents = output.buffer.contents := by
  obtain ⟨after, flushed, kept⟩ := Buffered.exists_flush output.buffer
  refine ⟨⟨after⟩, ?_, kept⟩
  rw [flush, flushed]

instance : Lossless StandardOutput where
  contents output := output.buffer.contents
  exists_write := exists_write
  exists_flush := exists_flush

end StandardOutput

end Backtrace
