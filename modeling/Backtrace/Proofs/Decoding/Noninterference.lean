import Backtrace.Proofs.Decoding.Invocations
import Backtrace.Proofs.Decoding.OverAnswers
import Backtrace.Proofs.Frame.Edits

/-!
# What does not influence a decoding

Two captures of one trace may differ in their lines of noise, in their line ends, in the blanks
at the ends of lines, in the run-time addresses and in how they are cut into chunks. The runs over
both are in step: they ask the same, write the same and end alike, whatever the resolver answers
and whatever the writer does. Only the number of lines may differ.
-/

namespace Backtrace.Decoding

open Trace

/-- Edits that frames do not show, and chunks that are cut in other places, have no influence on
a run, whatever writer it has: only the count of lines of a run that ends well grows by the
inserted lines. -/
theorem run_of_edits {σ : Type} [Writer σ] (resolver : Resolver) (configuration : Configuration)
    (writer : σ) {bytes edited : Bytes} {inserted : Nat}
    (edits : Frame.Edits (Utf8.decodeLossy bytes) (Utf8.decodeLossy edited) inserted)
    {input other : List ReadEvent} (delivered : Delivers input bytes)
    (redelivered : Delivers other edited) :
    let first := run resolver configuration writer input
    let second := run resolver configuration writer other
    second.activity.output = first.activity.output ∧
      second.activity.requests = first.activity.requests ∧
      second.activity.invocations = first.activity.invocations ∧ second.writer = first.writer ∧
      second.result =
        first.result.map fun counts => { counts with lines := counts.lines + inserted } := by
  intro first second
  obtain ⟨addresses, lines⟩ := Frame.addresses_of_edits edits
  have shown : second.exchanged = (first.following (.ofLines inserted) .none).exchanged := by
    have more : second.exchanged = _ := exchanged_run_of_delivers writer redelivered
    have less : first.exchanged = _ := exchanged_run_of_delivers writer delivered
    rw [addresses, lines, Nat.add_comm, overAnswers_add, ← less] at more
    exact more
  obtain ⟨result, output, requests, left⟩ := Run.exchanged_eq_iff.1 shown
  have asked : second.activity.requests = first.activity.requests := requests
  refine ⟨output, asked, ?_, left, ?_⟩
  · have started : second.activity.invocations = _ := invocations_run writer other
    have before : first.activity.invocations = _ := invocations_run writer input
    rw [started, before]
    exact congrArg (invocationsOf resolver 0) asked
  · rw [result, Run.result_following]
    cases first.result with
    | error error => rfl
    | ok counts =>
      simp [Except.map, Summary.add_def, Summary.ofLines, Nat.add_comm]

/-- One edit of each kind in a capture of four lines, which is then read in two chunks, with a
resolver that does not know the second frame that it is asked for. -/
theorem run_of_edits_combined :
    let resolver : Resolver := ⟨"table".toList, fun asked request =>
      ⟨.ok (if asked = 1 then .unresolved
        else .resolved ⟨request.address.spelling, "a.c:7".toList⟩), [], []⟩⟩
    let configuration : Configuration := ⟨.ofText "kboot.elf".toList, .ofText "addr2line".toList⟩
    let text : Text := ['a', '\n', ' ', '0', 'x', '1', '\n', ' ', '0', 'x', '7', ' ', '(', '0', 'X',
      '2', ')', '\r', '\n', ' ', '0', 'x', '3']
    let edited : Text := ['a', '\r', '\n', '0', '\n', ' ', '0', 'x', ' ', '(', '0', 'x', '1', ')',
      '\n', ' ', '0', 'x', 'z', ' ', '(', '0', 'X', '2', ')', '\r', '\n', ' ', '0', 'x', '3', '\t']
    let input : List ReadEvent := [.bytes (Utf8.encode text)]
    let other : List ReadEvent :=
      [.bytes ((Utf8.encode edited).take 9), .retry, .bytes ((Utf8.encode edited).drop 9)]
    let first := run resolver configuration Sink.unlimited input
    let second := run resolver configuration Sink.unlimited other
    Frame.Edits text edited 1 ∧ first.result = .ok ⟨4, 3, 2, 1⟩ ∧
      second.result = .ok ⟨5, 3, 2, 1⟩ ∧
      second.activity.output = Utf8.encode "0x1 - 0x1 @ a.c:7\n0x3 - 0x3 @ a.c:7\n".toList := by
  intro resolver configuration text edited input other first second
  let alone : Text := [' ', '0', 'x', '1']
  let moved : Text := [' ', '0', 'x', ' ', '(', '0', 'x', '1', ')']
  let linked : Text := [' ', '0', 'x', '7', ' ', '(', '0', 'X', '2', ')', '\r']
  let replaced : Text := [' ', '0', 'x', 'z', ' ', '(', '0', 'X', '2', ')', '\r']
  let last : Text := [' ', '0', 'x', '3']
  have noise : Frame.Edit text
      (['a', '\n', '0', '\n'] ++ alone ++ '\n' :: linked ++ '\n' :: last) 1 :=
    @Frame.Edit.inserted ['a', '\n'] ['0'] (alone ++ '\n' :: linked ++ '\n' :: last) (by decide)
      (by decide) (by rfl)
  have ending : Frame.Edit (['a', '\n', '0', '\n'] ++ alone ++ '\n' :: linked ++ '\n' :: last)
      (['a', '\r', '\n', '0', '\n'] ++ alone ++ '\n' :: linked ++ '\n' :: last) 0 :=
    .returned ['a'] (['0', '\n'] ++ alone ++ '\n' :: linked ++ '\n' :: last)
  have relocation : Frame.LineChange alone moved :=
    @Frame.LineChange.relocated ⟨['0', 'x', '1'], rfl⟩ [] ['0', 'x'] (by rfl) (by decide)
      (by decide) (by decide)
  have relocated : Frame.Edit
      (['a', '\r', '\n', '0', '\n'] ++ alone ++ '\n' :: linked ++ '\n' :: last)
      (['a', '\r', '\n', '0', '\n'] ++ moved ++ '\n' :: linked ++ '\n' :: last) 0 :=
    @Frame.Edit.changed ['a', '\r', '\n', '0', '\n'] alone moved ('\n' :: linked ++ '\n' :: last)
      (by decide) (by decide) (by decide) relocation
  have word : Frame.LineChange linked replaced :=
    @Frame.LineChange.firstWord ['0', 'x', '7'] ['(', '0', 'X', '2', ')']
      [' ', '(', '0', 'X', '2', ')', '\r'] ['0', 'x', 'z'] (by rfl) (by decide) (by decide)
      (by decide)
  have renamed : Frame.Edit
      (['a', '\r', '\n', '0', '\n'] ++ moved ++ '\n' :: linked ++ '\n' :: last)
      (['a', '\r', '\n', '0', '\n'] ++ moved ++ '\n' :: replaced ++ '\n' :: last) 0 :=
    @Frame.Edit.changed (['a', '\r', '\n', '0', '\n'] ++ moved ++ ['\n']) linked replaced
      ('\n' :: last) (by decide) (by decide) (by decide) word
  have blank : Frame.LineChange last (last ++ ['\t']) :=
    @Frame.LineChange.blanks last ['\t'] [] (by decide) (by decide) (by decide)
  have padded : Frame.Edit
      (['a', '\r', '\n', '0', '\n'] ++ moved ++ '\n' :: replaced ++ '\n' :: last) edited 0 :=
    @Frame.Edit.changed (['a', '\r', '\n', '0', '\n'] ++ moved ++ '\n' :: replaced ++ ['\n']) last
      (last ++ ['\t']) [] (by decide) (by decide) (by decide) blank
  have edits : Frame.Edits text edited 1 :=
    .more (.more (.more (.more (.more (.none text) noise) ending) relocated) renamed) padded
  have answered : ∀ answer ∈ resolver.answers configuration 0
      ((FrameStream.ofInput input).frames.map Prod.snd), answer.failure? = none := by
    intro answer inside
    obtain ⟨place, -, rfl⟩ := List.mem_map.1 inside
    rfl
  obtain ⟨-, output, result⟩ := run_of_answered resolver configuration answered
  rw [map_snd_frames] at output
  rw [FrameStream.fault?_ofInput, FrameStream.totalLines_ofInput, map_snd_frames] at result
  have counted : first.result = .ok ⟨4, 3, 2, 1⟩ := result.trans (by rfl)
  have delivered : Delivers input (Utf8.encode text ++ []) := .chunk _ .nothing
  have redelivered : Delivers other
      ((Utf8.encode edited).take 9 ++ ((Utf8.encode edited).drop 9 ++ [])) :=
    .chunk _ (.retry (.chunk _ .nothing))
  rw [List.append_nil] at delivered
  rw [List.append_nil, List.take_append_drop] at redelivered
  have read : Frame.Edits (Utf8.decodeLossy (Utf8.encode text))
      (Utf8.decodeLossy (Utf8.encode edited)) 1 := by
    rw [Utf8.decodeLossy_encode, Utf8.decodeLossy_encode]
    exact edits
  obtain ⟨same, -, -, -, more⟩ :=
    run_of_edits resolver configuration Sink.unlimited read delivered redelivered
  refine ⟨edits, counted, more.trans ?_, same.trans (output.trans (by decide +kernel))⟩
  exact congrArg (Except.map _) counted

end Backtrace.Decoding
