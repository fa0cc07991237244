import Backtrace.Proofs.Decoding.Answers
import Backtrace.Proofs.Session.Reporting
import Backtrace.Proofs.Writer.Lossless

/-!
# Runs whose output is kept

A writer that loses nothing makes no difference to a run: the result and the whole activity are
those of the run to a sink without a limit. What such a writer has taken after the run is what it
had before and the output of the run, also where the run fails.
-/

namespace Backtrace

variable {σ : Type} [Writer σ] [Lossless σ]

/-- The line of an entry is taken in whole. -/
theorem Entry.exists_write (entry : Entry) (writer : σ) :
    ∃ after, entry.write writer = ⟨entry.bytes, .ok (), after⟩ ∧
      Lossless.contents after = Lossless.contents writer ++ entry.bytes := by
  obtain ⟨middle, text, kept⟩ :=
    Lossless.exists_writeOut .shortWrite writer (Utf8.encode entry.text)
  obtain ⟨after, ended, whole⟩ := Lossless.exists_writeOut .shortWrite middle [lineFeed]
  have line : entry.bytes = Utf8.encode entry.text ++ [lineFeed] := by
    rw [bytes, Utf8.encode_append]
    rfl
  refine ⟨after, ?_, ?_⟩
  · rw [write, Writer.writeAll, text, Written.andThen]
    dsimp only
    rw [Writer.writeAll, ended, Written.following, line]
  · rw [whole, kept, line, List.append_assoc]

namespace Decoding

variable (resolver : Resolver) (configuration : Configuration)

/-- Handling a frame comes to the same for every writer that loses nothing. -/
theorem exists_handle (asked : Nat) (writer : σ) (number : Nat) (address : Address) :
    let plain := handle resolver configuration asked Sink.unlimited number address
    ∃ after, handle resolver configuration asked writer number address =
        ⟨plain.outcome, plain.activity, after⟩ ∧
      Lossless.contents after = Lossless.contents writer ++ plain.activity.output := by
  have nothing : Lossless.contents writer = Lossless.contents writer ++ [] :=
    (List.append_nil _).symm
  intro plain
  cases outcome : (resolver.answer asked (configuration.request address)).outcome with
  | error failure =>
    simp only [plain, handle, outcome]
    exact ⟨writer, rfl, nothing⟩
  | ok resolution =>
    cases resolution with
    | unresolved =>
      simp only [plain, handle, outcome]
      exact ⟨writer, rfl, nothing⟩
    | resolved symbol =>
      obtain ⟨after, written, kept⟩ := Entry.exists_write ⟨address, symbol⟩ writer
      simp only [plain, handle, outcome, written, Entry.write_unlimited]
      exact ⟨after, rfl, kept⟩

/-- Flushing at the end of a run loses nothing. -/
theorem exists_finish (writer : σ) (lines : Nat) :
    let plain := finish Sink.unlimited lines
    ∃ after, finish writer lines = ⟨plain.result, plain.activity, after⟩ ∧
      Lossless.contents after = Lossless.contents writer ++ plain.activity.output := by
  obtain ⟨after, flushed, kept⟩ := Lossless.exists_flush writer
  have steady : Writer.flush Sink.unlimited = (.ok (), .unlimited) := Sink.flush_of_steady rfl
  refine ⟨after, ?_, ?_⟩
  · simp only [finish, flushed, steady]
  · rw [kept]
    exact (List.append_nil _).symm

/-- The run over lines comes to the same for every writer that loses nothing. -/
theorem exists_overLines (fault : Option FinalFault) (asked : Nat) (writer : σ) (number : Nat)
    (lines : List Bytes) :
    let plain := overLines resolver configuration fault asked Sink.unlimited number lines
    ∃ after, overLines resolver configuration fault asked writer number lines =
        ⟨plain.result, plain.activity, after⟩ ∧
      Lossless.contents after = Lossless.contents writer ++ plain.activity.output := by
  -- Every frame leaves another writer behind, so the induction is over any writer.
  induction lines generalizing asked writer number with
  | nil =>
    cases fault with
    | some fault => exact ⟨writer, rfl, (List.append_nil _).symm⟩
    | none => exact exists_finish writer number
  | cons line later ih =>
    cases found : Frame.address? (Utf8.decodeLossy line) with
    | none =>
      obtain ⟨after, rest, kept⟩ := ih asked writer (number + 1)
      refine ⟨after, ?_, ?_⟩
      · rw [overLines_cons_of_none found, overLines_cons_of_none found, rest]
        rfl
      · rw [overLines_cons_of_none found, kept]
        rfl
    | some address =>
      obtain ⟨middle, handled, taken⟩ :=
        exists_handle resolver configuration asked writer (number + 1) address
      rw [overLines_cons_of_some found, overLines_cons_of_some found, handled]
      cases outcome :
        (handle resolver configuration asked Sink.unlimited (number + 1) address).outcome with
      | error error =>
        rw [Handling.proceed_of_error outcome, Handling.proceed_of_error rfl]
        exact ⟨middle, rfl, taken⟩
      | ok counts =>
        obtain ⟨after, rest, kept⟩ := ih (asked + 1) middle (number + 1)
        rw [Handling.proceed_of_ok outcome, Handling.proceed_of_ok rfl, writer_handle]
        dsimp only
        refine ⟨after, ?_, ?_⟩
        · rw [rest]
          rfl
        · rw [kept, taken, Run.output_following, List.append_assoc]

/-- A run comes to the same for every writer that loses nothing. -/
theorem exists_run (writer : σ) (input : List ReadEvent) :
    let plain := run resolver configuration Sink.unlimited input
    ∃ after, run resolver configuration writer input = ⟨plain.result, plain.activity, after⟩ ∧
      Lossless.contents after = Lossless.contents writer ++ plain.activity.output := by
  simp only [run_eq_overLines]
  exact exists_overLines resolver configuration _ 0 writer 0 _

end Decoding

/-- A session comes to the same for every writer that loses nothing. -/
theorem Session.exists_decodeWith (resolver : Resolver) (world : World)
    (configuration : Configuration) (writer : σ) (input : List ReadEvent) :
    let plain := decodeWith resolver world configuration Sink.unlimited input
    ∃ after, decodeWith resolver world configuration writer input =
        ⟨plain.result, plain.activity, after⟩ ∧
      Lossless.contents after = Lossless.contents writer ++ plain.activity.output := by
  intro plain
  obtain ⟨after, ran, kept⟩ := Decoding.exists_run resolver configuration writer input
  refine ⟨after, ?_, ?_⟩
  · simp only [plain, decodeWith, ran]
    cases (Decoding.run resolver configuration Sink.unlimited input).result <;> rfl
  · rw [kept, output_decodeWith]

end Backtrace
