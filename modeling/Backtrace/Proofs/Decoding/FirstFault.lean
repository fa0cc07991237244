import Backtrace.Proofs.Decoding.Outcome
import Backtrace.Proofs.Trace.Moments
import Mathlib.Data.List.TakeWhile

/-!
# The first fault of a run

A run can meet two kinds of fault while its output takes everything: the resolver program does
not start, or the input fails. Whichever comes first ends the run. The statement here says what
has been done by then, down to the line that the input failed in, and that two inputs which
agree up to the fault have the same run.
-/

namespace Backtrace

namespace Decoding

open Trace LineMachine

variable (resolver : Resolver) (configuration : Configuration)

/-- A run meets a fault while only these events of its input have arrived: the input failed, or
the resolver does not start for a frame whose line is completed. -/
def FaultWithin (before : List ReadEvent) : Prop :=
  let machine := (holding []).run before
  (∃ fault, machine.status = .failed fault) ∨
    ∃ answer ∈ resolver.answers configuration 0 (addressesIn machine.completed),
      answer.failure? ≠ none

/-- Among answers of which some are failures one is the first. -/
theorem exists_first_failure {answers : List Answer}
    (failed : ∃ answer ∈ answers, answer.failure? ≠ none) :
    ∃ earlier answer later failure, answers = earlier ++ answer :: later ∧
      (∀ other ∈ earlier, other.failure? = none) ∧ answer.failure? = some failure := by
  have found : (answers.find? fun answer => answer.failure?.isSome).isSome := by
    rw [List.find?_isSome]
    obtain ⟨answer, inside, bad⟩ := failed
    exact ⟨answer, inside, Option.isSome_iff_ne_none.2 bad⟩
  obtain ⟨answer, first⟩ := Option.isSome_iff_exists.1 found
  obtain ⟨bad, earlier, later, split, good⟩ := List.find?_eq_some_iff_append.1 first
  obtain ⟨failure, reason⟩ := Option.isSome_iff_exists.1 bad
  refine ⟨earlier, answer, later, failure, split, ?_, reason⟩
  intro other inside
  simpa using good other inside

variable {resolver configuration}

/-- The first failure to launch the resolver ends the run. -/
theorem run_of_launch_failure {input : List ReadEvent}
    {earlier later : List Answer} {answer : Answer} {failure : LaunchFailure}
    (split : resolver.answers configuration 0
      ((FrameStream.ofInput input).frames.map Prod.snd) = earlier ++ answer :: later)
    (answered : ∀ other ∈ earlier, other.failure? = none)
    (failed : answer.failure? = some failure) :
    let addresses := (FrameStream.ofInput input).frames.map Prod.snd
    let run := run resolver configuration Sink.unlimited input
    run.activity.requests = (addresses.take (earlier.length + 1)).map configuration.request ∧
      run.activity.requests.length = earlier.length + 1 ∧
      run.activity.output = earlier.flatMap Answer.written ∧
      run.result = .error (.launch failure) := by
  intro addresses run
  have found : addresses = addressesIn (scan [] input).completed := map_snd_frames input
  have count : earlier.length + 1 ≤ addresses.length := by
    have total := congrArg List.length split
    rw [Resolver.length_answers, List.length_append, List.length_cons] at total
    change addresses.length = _ at total
    omega
  rw [map_snd_frames] at split
  obtain ⟨requests, output, result⟩ :=
    overLines_of_failure 0 (scan [] input).fault? split answered failed
  rw [← run_eq_overLines, ← found] at requests
  rw [← run_eq_overLines] at output result
  refine ⟨requests, ?_, output, result⟩
  rw [requests, List.length_map, List.length_take, Nat.min_eq_left count]

/-- A run that ends well has an answer for every frame. -/
theorem answered_of_ok {input : List ReadEvent} {summary : Summary}
    (ended : (run resolver configuration Sink.unlimited input).result = .ok summary) :
    ∀ answer ∈ resolver.answers configuration 0 ((FrameStream.ofInput input).frames.map Prod.snd),
      answer.failure? = none := by
  -- The first failure among the answers would have ended the run.
  intro answer inside
  refine Decidable.byContradiction fun failed => ?_
  obtain ⟨earlier, first, later, failure, split, good, bad⟩ :=
    exists_first_failure ⟨answer, inside, failed⟩
  obtain ⟨-, -, -, result⟩ := run_of_launch_failure split good bad
  rw [ended] at result
  simp at result

/-- However a run ends, its output is the lines of the frames that were answered before the first
failure to launch the resolver. -/
theorem output_run (resolver : Resolver) (configuration : Configuration)
    (input : List ReadEvent) :
    let addresses := (FrameStream.ofInput input).frames.map Prod.snd
    (run resolver configuration Sink.unlimited input).activity.output =
      ((resolver.answers configuration 0 addresses).takeWhile fun answer =>
        answer.failure?.isNone).flatMap Answer.written := by
  intro addresses
  by_cases failed : ∃ answer ∈ resolver.answers configuration 0 addresses, answer.failure? ≠ none
  · obtain ⟨earlier, answer, later, failure, split, good, bad⟩ := exists_first_failure failed
    obtain ⟨-, -, output, -⟩ := run_of_launch_failure split good bad
    rw [output, split, List.takeWhile_append_of_pos fun other inside => by simp [good other inside],
      List.takeWhile_cons_of_neg (by simp [bad]), List.append_nil]
  · have answered : ∀ answer ∈ resolver.answers configuration 0 addresses,
        answer.failure? = none := by simpa using failed
    obtain ⟨-, output, -⟩ := run_of_answered resolver configuration answered
    rw [output, List.takeWhile_eq_self_iff.2 fun other inside => by simp [answered other inside]]

/-- A moment at which the frames to be asked for go up to one whose request fails has met that
fault. -/
theorem faultWithin_of_failure {addresses : List Address} {before : List ReadEvent}
    {earlier later : List Answer} {answer : Answer} {failure : LaunchFailure}
    (split : resolver.answers configuration 0 addresses = earlier ++ answer :: later)
    (failed : answer.failure? = some failure)
    (reached : addressesIn ((holding []).run before).completed =
      addresses.take (earlier.length + 1)) : FaultWithin resolver configuration before := by
  have asked : resolver.answers configuration 0
      (addressesIn ((holding []).run before).completed) = earlier ++ [answer] := by
    rw [reached, ← Resolver.take_answers, split, List.take_length_add_append]
    rfl
  refine .inr ⟨answer, ?_, by simp [failed]⟩
  rw [asked]
  simp

/-- For each part of the requests there is the moment at which the frames to be asked for are
these: the lines completed by then hold them and no others. -/
theorem exists_moment_of_addresses (input : List ReadEvent) (count : Nat) :
    ∃ before, Extends before (ended input) ∧
      addressesIn ((holding []).run before).completed =
        ((FrameStream.ofInput input).frames.map Prod.snd).take count := by
  obtain ⟨texts, inside, found⟩ := List.prefix_filterMap_iff.1
    (List.take_prefix count (addressesIn (scan [] input).completed))
  obtain ⟨lines, part, rfl⟩ := List.prefix_map_iff.1 inside
  obtain ⟨before, extended, reached⟩ := exists_moment_of_prefix part
  refine ⟨before, extended, ?_⟩
  rw [reached, map_snd_frames, found]
  rfl

/-- An input that fails does so at one of its events. Its frames are those among the lines
completed before that event, and with it the fault is met. -/
theorem exists_fault_of_stream {input : List ReadEvent} {fault : FinalFault}
    (failed : (FrameStream.ofInput input).fault? = some fault) :
    ∃ before after, input = before ++ .fault fault :: after ∧
      ((holding []).run before).status = .reading ∧
      (FrameStream.ofInput input).frames.map Prod.snd =
        addressesIn ((holding []).run before).completed ∧
      FaultWithin resolver configuration (before ++ [.fault fault]) := by
  rw [FrameStream.fault?_ofInput, scan, fault?_close, fault?] at failed
  split at failed
  · rename_i other status
    obtain rfl := Option.some.inj failed
    obtain ⟨before, after, rfl, reading⟩ := exists_fault_of_failed rfl status
    refine ⟨before, after, rfl, reading, ?_, .inl ⟨other, ?_⟩⟩
    · rw [map_snd_frames, scan, run_of_fault reading, close_of_ended (by simp)]
    · rw [run_of_fault reading]
  · simp at failed

/-- Inputs that agree up to a fault have the same run. -/
theorem run_eq_of_faultWithin {before input other : List ReadEvent}
    (within : FaultWithin resolver configuration before) (first : Extends before (ended input))
    (second : Extends before (ended other)) :
    run resolver configuration Sink.unlimited input =
      run resolver configuration Sink.unlimited other := by
  obtain ⟨after, onward⟩ := scan_of_extends first []
  obtain ⟨later, onwards⟩ := scan_of_extends second []
  rw [run_eq_overLines, run_eq_overLines, onward, onwards]
  rcases within with ⟨fault, failed⟩ | bad
  · have ended : ((holding []).run before).status ≠ .reading := by simp [failed]
    rw [run_of_ended ended, run_of_ended ended]
  · obtain ⟨rest, lines⟩ := completed_prefix_run ((holding []).run before) after
    obtain ⟨others, otherLines⟩ := completed_prefix_run ((holding []).run before) later
    rw [← lines, ← otherLines]
    exact overLines_append_of_failure 0 _ _ bad rest others

/-- The first fault is the outcome of a run, whether a frame for which the resolver does not start
or a failure of the input, and what was done for the frames before it stands. Inputs that agree up
to the moment of the fault have the same run. -/
theorem run_of_first_fault (resolver : Resolver) (configuration : Configuration)
    (input : List ReadEvent) :
    let stream := FrameStream.ofInput input
    let addresses := stream.frames.map Prod.snd
    let answers := resolver.answers configuration 0 addresses
    let run := run resolver configuration Sink.unlimited
    ((∃ answer ∈ answers, answer.failure? ≠ none) →
      ∃ earlier answer later failure before, answers = earlier ++ answer :: later ∧
        (∀ other ∈ earlier, other.failure? = none) ∧ answer.failure? = some failure ∧
        (run input).result = .error (.launch failure) ∧
        (DecodeError.launch failure).message = failure.message ∧
        (DecodeError.launch failure).cause = failure.cause ∧
        (run input).activity.requests =
          (addresses.take (earlier.length + 1)).map configuration.request ∧
        (run input).activity.requests.length = earlier.length + 1 ∧
        (run input).activity.output = earlier.flatMap Answer.written ∧
        Extends before (ended input) ∧ FaultWithin resolver configuration before ∧
        addressesIn ((holding []).run before).completed = addresses.take (earlier.length + 1)) ∧
      (∀ fault, stream.fault? = some fault → (∀ answer ∈ answers, answer.failure? = none) →
        (run input).result = .error (.read fault) ∧
        (run input).activity.requests = addresses.map configuration.request ∧
        (run input).activity.output = answers.flatMap Answer.written ∧
        ∃ before after, input = before ++ .fault fault :: after ∧
          ((holding []).run before).status = .reading ∧
          addresses = addressesIn ((holding []).run before).completed ∧
          FaultWithin resolver configuration (before ++ [.fault fault])) ∧
      ∀ before other, FaultWithin resolver configuration before →
        Extends before (ended input) → Extends before (ended other) → run input = run other := by
  refine ⟨?_, ?_, ?_⟩
  · intro failed
    obtain ⟨earlier, answer, later, failure, split, good, bad⟩ := exists_first_failure failed
    obtain ⟨requests, count, output, result⟩ := run_of_launch_failure split good bad
    obtain ⟨before, extended, reached⟩ := exists_moment_of_addresses input (earlier.length + 1)
    have within := faultWithin_of_failure split bad reached
    exact ⟨earlier, answer, later, failure, before, split, good, bad, result, rfl, rfl, requests,
      count, output, extended, within, reached⟩
  · intro fault failed answered
    obtain ⟨requests, output, result⟩ := run_of_answered resolver configuration answered
    rw [failed] at result
    exact ⟨result, requests, output, exists_fault_of_stream failed⟩
  · intro before other within first second
    exact run_eq_of_faultWithin within first second

/-- A resolver that does not start for the second frame, and an input that fails inside the line
after the first one. -/
theorem run_of_first_fault_either :
    let failure : LaunchFailure := ⟨.ofText "addr2line".toList, .missing⟩
    let symbol : Symbol := ⟨"main".toList, "a.c:7".toList⟩
    let resolver : Resolver := ⟨"table".toList, fun asked _ =>
      ⟨if asked = 1 then .error failure else .ok (.resolved symbol), [], []⟩⟩
    let configuration : Configuration := ⟨.ofText "kboot.elf".toList, failure.program⟩
    let run := run resolver configuration Sink.unlimited
    let two : List ReadEvent := [.bytes (Utf8.encode " 0x1\n 0x2\n".toList)]
    let three : List ReadEvent := [.bytes (Utf8.encode " 0x1\n 0x2\n 0x3\n".toList), .abandon]
    let cut : List ReadEvent := [.bytes (Utf8.encode " 0x1\n 0x2".toList), .fault ⟨.denied, rfl⟩]
    let written := Utf8.encode "0x1 - main @ a.c:7\n".toList
    ((run three).result = .error (.launch failure) ∧
      (run three).activity.requests.length = 2 ∧ (run three).activity.output = written) ∧
    ((run cut).result = .error (.read .denied) ∧
      (run cut).activity.requests.length = 1 ∧ (run cut).activity.output = written) ∧
    FaultWithin resolver configuration two ∧ run three = run (two ++ cut) := by
  intro failure symbol resolver configuration run two three cut written
  obtain ⟨launched, -, agreed⟩ := run_of_first_fault resolver configuration three
  obtain ⟨-, read, -⟩ := run_of_first_fault resolver configuration cut
  let first : Answer := ⟨⟨['0', 'x', '1'], rfl⟩, .ok (.resolved symbol)⟩
  let second : Answer := ⟨⟨['0', 'x', '2'], rfl⟩, .error failure⟩
  let third : Answer := ⟨⟨['0', 'x', '3'], rfl⟩, .ok (.resolved symbol)⟩
  have within : resolver.answers configuration 0
      (addressesIn ((holding []).run two).completed) = [first, second] := by rfl
  have whole : resolver.answers configuration 0
      (addressesIn (scan [] three).completed) = [first, second, third] := by rfl
  have part : resolver.answers configuration 0
      (addressesIn (scan [] cut).completed) = [first] := by rfl
  have faulted : FaultWithin resolver configuration two :=
    .inr ⟨second, by rw [within]; simp, by simp [second, Answer.failure?]⟩
  refine ⟨?_, ?_, faulted, ?_⟩
  · rw [map_snd_frames, whole] at launched
    obtain ⟨earlier, answer, later, reason, -, split, good, bad, result, -, -, -, count, output,
      -⟩ := launched ⟨second, by simp, by simp [second, Answer.failure?]⟩
    rcases earlier with _ | ⟨other, _ | ⟨next, others⟩⟩
    · obtain ⟨rfl, -⟩ := List.cons.inj split
      simp [first, Answer.failure?] at bad
    · obtain ⟨rfl, rest⟩ := List.cons.inj split
      obtain ⟨rfl, -⟩ := List.cons.inj rest
      obtain rfl := Option.some.inj bad
      exact ⟨result, count, output.trans (by decide +kernel)⟩
    · obtain ⟨rfl, rest⟩ := List.cons.inj split
      obtain ⟨rfl, -⟩ := List.cons.inj rest
      have none := good second (by simp)
      simp [second, Answer.failure?] at none
  · rw [map_snd_frames, FrameStream.fault?_ofInput, part] at read
    obtain ⟨result, requests, output, -⟩ :=
      read ⟨.denied, rfl⟩ rfl (by simp [first, Answer.failure?])
    exact ⟨result, requests ▸ rfl, output.trans (by decide +kernel)⟩
  · exact agreed two (two ++ cut) faulted (.chunk [] _ (Utf8.encode " 0x3\n".toList) _)
      (.events _ _)

end Decoding
end Backtrace
