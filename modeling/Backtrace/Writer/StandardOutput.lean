import Backtrace.Writer.Buffered

/-!
# Standard output

Standard output passes whole lines on to the outside and holds the start of a line back, until the
line is complete or fills its buffer, until it is flushed, or until the program ends. The outside
takes all bytes that it is given.
-/

namespace Backtrace

/-- The outside of the program. -/
structure Outside where
  /-- What it has received. -/
  received : Bytes
deriving DecidableEq

namespace Outside

/-- The outside after more bytes. -/
def receive (outside : Outside) (bytes : Bytes) : Outside := ⟨outside.received ++ bytes⟩

instance : Writer Outside where
  write outside bytes := (.ok bytes.length, outside.receive bytes)
  flush outside := (.ok (), outside)
  patience _ _ := 0
  taken_le met := Nat.le_of_eq (Except.ok.inj (Prod.mk.inj met).1).symm
  patience_lt met _ := by simp at met

end Outside

/-- The bytes of an unfinished line that standard output has room for. -/
def lineSize : Nat := 1024

/-- The state of standard output. -/
structure StandardOutput where
  /-- The outside, and the start of a line that is held before it. -/
  buffer : Buffered lineSize Outside
deriving DecidableEq

namespace StandardOutput

/-- Standard output when a program starts. -/
def empty : StandardOutput := ⟨.new ⟨[]⟩⟩

/-- The whole lines at the front of some bytes, up to the last line feed. -/
def wholeLines (bytes : Bytes) : Bytes := (bytes.reverse.dropWhile (· != lineFeed)).reverse

/-- Standard output with nothing held back. -/
def release (output : StandardOutput) : StandardOutput := ⟨output.buffer.passOn.2⟩

/-- One write. Bytes that end no line are buffered. Whole lines are passed on after what is held,
and what follows them is held, or left for another write if it fills the buffer by itself. -/
def write (output : StandardOutput) (bytes : Bytes) : Except Fault Nat × StandardOutput :=
  let lines := wholeLines bytes
  if lines = [] then
    let written := output.buffer.write bytes
    (written.1, ⟨written.2⟩)
  else
    let rest := bytes.drop lines.length
    let outside := output.release.buffer.inner.receive lines
    if rest.length < lineSize then (.ok bytes.length, ⟨⟨outside, rest⟩⟩)
    else (.ok lines.length, ⟨⟨outside, []⟩⟩)

/-- Passes on what is held. -/
def flush (output : StandardOutput) : Except Fault Unit × StandardOutput :=
  let flushed := output.buffer.flush
  (flushed.1, ⟨flushed.2⟩)

/-- The whole lines stand at the front of the bytes. -/
theorem wholeLines_front (bytes : Bytes) : wholeLines bytes <+: bytes := by
  have suffix : bytes.reverse.dropWhile (· != lineFeed) <:+ bytes.reverse :=
    List.dropWhile_suffix _
  rw [← List.reverse_reverse bytes]
  exact List.reverse_prefix.2 (by rwa [List.reverse_reverse])

/-- Standard output takes no more than it is given. -/
theorem taken_le_of_write {output after : StandardOutput} {bytes : Bytes} {taken : Nat}
    (met : output.write bytes = (.ok taken, after)) : taken ≤ bytes.length := by
  unfold write at met
  dsimp only at met
  split at met
  · exact Buffered.taken_le_of_write (Prod.ext (Prod.mk.inj met).1 rfl)
  · split at met
    · exact Nat.le_of_eq (Except.ok.inj (Prod.mk.inj met).1).symm
    · rw [← Except.ok.inj (Prod.mk.inj met).1]
      exact (wholeLines_front bytes).length_le

/-- A write is interrupted only where the bytes are buffered. -/
theorem patience_lt_of_write {output after : StandardOutput} {bytes : Bytes} {fault : Fault}
    (met : output.write bytes = (.error fault, after))
    (interrupted : fault.isInterruption = true) :
    after.buffer.patience bytes < output.buffer.patience bytes := by
  unfold write at met
  dsimp only at met
  split at met
  · obtain ⟨failed, rfl⟩ := Prod.mk.inj met
    exact Buffered.patience_lt_of_write (Prod.ext failed rfl) interrupted
  · split at met <;> simp at met

instance : Writer StandardOutput where
  write := write
  flush := flush
  patience output := output.buffer.patience
  taken_le := taken_le_of_write
  patience_lt := patience_lt_of_write

end StandardOutput
end Backtrace
