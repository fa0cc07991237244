import Backtrace.Proofs.Decoding.OverAnswers

/-!
# Decoding one input after another

Captures may be joined where a line ends. With a resolver that answers the same request alike
whenever it is asked, a run over one input and then another is the two runs in order: output
after output, requests after requests, counts added to counts. If the first part fails the second
one is never looked at, and an error of the second part is the error of the whole.
-/

namespace Backtrace

namespace Trace.LineMachine

/-- A line feed completes the line that is held, and nothing is held after it. -/
theorem take_lineFeed {machine : LineMachine} (reading : machine.status = .reading) :
    machine.take lineFeed =
      (holding []).after (machine.completed ++ [machine.held ++ [lineFeed]]) := by
  simp [take, after, holding, reading]

/-- After bytes that end with a whole line, or after none, the machine holds nothing. -/
theorem exists_lines_of_whole {input : List ReadEvent} {bytes : Bytes}
    (delivered : Delivers input bytes) (whole : bytes = [] ∨ bytes.getLast? = some lineFeed) :
    ∃ lines, (holding []).run input = (holding []).after lines := by
  have taken : (holding []).run input = bytes.foldl take (holding []) :=
    run_of_delivers delivered rfl
  rcases whole with rfl | ended
  · exact ⟨[], taken⟩
  · obtain ⟨front, rfl⟩ := List.getLast?_eq_some_iff.1 ended
    have reading : (front.foldl take (holding [])).status = .reading :=
      status_foldl_take front (holding [])
    rw [List.foldl_append] at taken
    exact ⟨_, taken.trans (take_lineFeed reading)⟩

/-- Lines that one part completes stand before the lines of the next part. -/
theorem scan_append {input : List ReadEvent} {lines : List Bytes}
    (completed : (holding []).run input = (holding []).after lines) (rest : List ReadEvent) :
    scan [] (input ++ rest) = (scan [] rest).after lines := by
  rw [scan, run_append, completed, run_after, close_after, scan]

end Trace.LineMachine

namespace Resolver

/-- The answer to a request does not depend on the requests before it. -/
def Memoryless (resolver : Resolver) : Prop :=
  ∀ asked other request,
    (resolver.answer asked request).outcome = (resolver.answer other request).outcome

/-- Without a memory the answers are the same after any number of requests. -/
theorem answers_of_memoryless {resolver : Resolver} (memoryless : resolver.Memoryless)
    (configuration : Configuration) (asked other : Nat) (addresses : List Address) :
    resolver.answers configuration asked addresses =
      resolver.answers configuration other addresses := by
  induction addresses generalizing asked other with
  | nil => rfl
  | cons address later ih =>
    have first : resolver.answerTo configuration asked address =
        resolver.answerTo configuration other address :=
      congrArg (Answer.mk address) (memoryless asked other _)
    rw [answers_cons, answers_cons, first, ih (asked + 1) (other + 1)]

end Resolver

namespace Run

variable {σ : Type}

/-- A run and, if it ends well, another one after it, whose counts are added. -/
def andThen (first second : Run σ) : Run σ :=
  match first.result with
  | .error _ => first
  | .ok counts => second.following counts first.activity

/-- What comes before the first of two runs comes before both. -/
theorem following_andThen (counts : Summary) (activity : Activity) (first second : Run σ) :
    (first.following counts activity).andThen second =
      (first.andThen second).following counts activity := by
  obtain ⟨result, own, writer⟩ := first
  cases result with
  | error error => rfl
  | ok summary => exact (following_following counts summary activity own second).symm

/-- Two runs one after the other show what the first shows and then what the second does. -/
theorem exchanged_andThen (first second : Run σ) :
    (first.andThen second).exchanged = first.exchanged.andThen second.exchanged := by
  obtain ⟨result, activity, writer⟩ := first
  cases result <;> rfl

/-- If the first of two runs fails, the second has no part. -/
theorem andThen_of_error {first : Run σ} {error : DecodeError}
    (failed : first.result = .error error) (second : Run σ) : first.andThen second = first := by
  rw [andThen, failed]

/-- If the first of two runs ends well, the second follows it. -/
theorem andThen_of_ok {first : Run σ} {counts : Summary} (ended : first.result = .ok counts)
    (second : Run σ) : first.andThen second = second.following counts first.activity := by
  rw [andThen, ended]

end Run

namespace Decoding

open Trace LineMachine

variable {resolver : Resolver} {configuration : Configuration}

/-- While the output takes everything, it is the same before and after each frame. -/
theorem writer_settle (answer : Answer) :
    (settle configuration Sink.unlimited answer).writer = .unlimited := by
  unfold settle Answer.write
  dsimp only
  split
  · rw [Entry.write_unlimited]
  · rfl

/-- The run over the answers of two inputs is the run over those of the first and then the one
over those of the second. -/
theorem overAnswers_append (fault : Option FinalFault) (first lines : Nat)
    (front back : List Answer) :
    overAnswers configuration fault (first + lines) Sink.unlimited (front ++ back) =
      (overAnswers configuration none first Sink.unlimited front).andThen
        (overAnswers configuration fault lines Sink.unlimited back) := by
  induction front with
  | nil => exact overAnswers_add first lines Sink.unlimited back
  | cons answer later ih =>
    rw [List.cons_append, overAnswers, overAnswers]
    cases settled : (settle configuration Sink.unlimited answer).outcome with
    | error error =>
      rw [Handling.proceed_of_error settled, Handling.proceed_of_error settled,
        Run.andThen_of_error rfl]
    | ok counts =>
      rw [Handling.proceed_of_ok settled, Handling.proceed_of_ok settled, writer_settle, ih,
        Run.following_andThen]

/-- The frames of some lines are those of their parts. -/
theorem addressesIn_append (front back : List Bytes) :
    addressesIn (front ++ back) = addressesIn front ++ addressesIn back := by
  rw [addressesIn, List.map_append, List.filterMap_append, addressesIn, addressesIn]

/-- A run over whole lines and what follows them shows what the runs over both parts show, one
after the other. -/
theorem exchanged_run_append (memoryless : resolver.Memoryless) {front : List ReadEvent}
    {bytes : Bytes} (delivered : Delivers front bytes)
    (whole : bytes = [] ∨ bytes.getLast? = some lineFeed) (rest : List ReadEvent) :
    (run resolver configuration Sink.unlimited (front ++ rest)).exchanged =
      ((run resolver configuration Sink.unlimited front).andThen
        (run resolver configuration Sink.unlimited rest)).exchanged := by
  obtain ⟨lines, completed⟩ := exists_lines_of_whole delivered whole
  have joined : scan [] (front ++ rest) = (scan [] rest).after lines :=
    scan_append completed rest
  have alone : scan [] front = ⟨lines, [], .finished⟩ := by
    rw [scan, completed, close_after]
    exact congrArg (LineMachine.mk · [] .finished) (List.append_nil lines)
  -- The second part is asked for later, which a resolver without a memory does not notice.
  have answers : resolver.answers configuration 0
      (addressesIn (lines ++ (scan [] rest).completed)) =
        resolver.answers configuration 0 (addressesIn lines) ++
          resolver.answers configuration 0 (addressesIn (scan [] rest).completed) := by
    rw [addressesIn_append, Resolver.answers_append]
    exact congrArg _ (Resolver.answers_of_memoryless memoryless _ _ _ _)
  have first : (run resolver configuration Sink.unlimited front).exchanged =
      overAnswers configuration none lines.length Sink.unlimited
        (resolver.answers configuration 0 (addressesIn lines)) := by
    rw [run_eq_overLines, exchanged_overLines, alone, Nat.zero_add]
    rfl
  rw [Run.exchanged_andThen, first, run_eq_overLines, run_eq_overLines, exchanged_overLines,
    exchanged_overLines, joined, Nat.zero_add, Nat.zero_add]
  -- Both parts together end as the second one does, with the lines of both.
  change overAnswers configuration (scan [] rest).fault?
    (lines ++ (scan [] rest).completed).length Sink.unlimited _ = _
  rw [List.length_append]
  exact (congrArg _ answers).trans (overAnswers_append _ _ _ _ _)

/-- Decoding takes inputs that are joined at the end of a line to joined runs: the second run
follows the first, with its counts added or its error kept, unless the first one fails. -/
theorem run_append_of_memoryless (resolver : Resolver) (configuration : Configuration)
    (memoryless : resolver.Memoryless) {front : List ReadEvent} {bytes : Bytes}
    (delivered : Delivers front bytes) (whole : bytes = [] ∨ bytes.getLast? = some lineFeed)
    (rest : List ReadEvent) :
    let first := run resolver configuration Sink.unlimited front
    let second := run resolver configuration Sink.unlimited rest
    let both := run resolver configuration Sink.unlimited (front ++ rest)
    (∀ error, first.result = .error error →
      both.result = .error error ∧ both.activity.output = first.activity.output ∧
        both.activity.requests = first.activity.requests) ∧
      ∀ counts, first.result = .ok counts →
        both.activity.output = first.activity.output ++ second.activity.output ∧
          both.activity.requests = first.activity.requests ++ second.activity.requests ∧
          (∀ more, second.result = .ok more → both.result = .ok (counts + more)) ∧
          ∀ error, second.result = .error error → both.result = .error error := by
  intro first second both
  have joined : both.exchanged = (first.andThen second).exchanged :=
    exchanged_run_append memoryless delivered whole rest
  obtain ⟨result, output, requests, -⟩ := Run.exchanged_eq_iff.1 joined
  constructor
  · intro error failed
    rw [Run.andThen_of_error failed] at result output requests
    exact ⟨result.trans failed, output, requests⟩
  · intro counts ended
    rw [Run.andThen_of_ok ended] at result output requests
    rw [Run.result_following] at result
    refine ⟨output, requests, ?_, ?_⟩
    · intro more good
      rw [result, good]
      rfl
    · intro error bad
      rw [result, bad]
      rfl

/-- A first part that is cut inside a line, and after it one part that is decoded and one that
fails to be read after its first frame. -/
theorem run_append_of_memoryless_cut :
    let resolver : Resolver := ⟨"table".toList, fun _ request =>
      ⟨.ok (if request.address.spelling = "0x2".toList then .unresolved
        else .resolved ⟨"main".toList, "a.c:7".toList⟩), [], []⟩⟩
    let configuration : Configuration := ⟨.ofText "kboot.elf".toList, .ofText "addr2line".toList⟩
    let bytes := Utf8.encode " 0x1\nnoise\r\n".toList
    let front : List ReadEvent :=
      [.bytes (Utf8.encode " 0".toList), .retry, .bytes (Utf8.encode "x1\nnoise\r\n".toList)]
    let good : List ReadEvent := [.bytes (Utf8.encode " 0x2\n 0x1".toList), .pause]
    let bad : List ReadEvent := [.bytes (Utf8.encode " 0x1\n 0x2".toList), .fault ⟨.denied, rfl⟩]
    let run := run resolver configuration Sink.unlimited
    let line := Utf8.encode "0x1 - main @ a.c:7\n".toList
    (resolver.Memoryless ∧ Delivers front bytes ∧ bytes.getLast? = some lineFeed) ∧
      ((run (front ++ good)).result = .ok ⟨4, 3, 2, 1⟩ ∧
        (run (front ++ good)).activity.output = line ++ line) ∧
      (run (front ++ bad)).result = .error (.read .denied) ∧
      (run (front ++ bad)).activity.requests.length = 2 := by
  intro resolver configuration bytes front good bad run line
  have memoryless : resolver.Memoryless := fun _ _ _ => rfl
  have delivered : Delivers front bytes := .chunk _ (.retry (.chunk _ .nothing))
  have whole : bytes.getLast? = some lineFeed := by decide
  have answered (input : List ReadEvent) : ∀ answer ∈ resolver.answers configuration 0
      ((FrameStream.ofInput input).frames.map Prod.snd), answer.failure? = none := by
    intro answer inside
    obtain ⟨place, -, rfl⟩ := List.mem_map.1 inside
    rfl
  obtain ⟨frontRequests, frontOutput, frontResult⟩ :=
    run_of_answered resolver configuration (answered front)
  obtain ⟨-, goodOutput, goodResult⟩ := run_of_answered resolver configuration (answered good)
  obtain ⟨badRequests, -, badResult⟩ := run_of_answered resolver configuration (answered bad)
  simp only [FrameStream.fault?_ofInput, FrameStream.totalLines_ofInput, map_snd_frames]
    at frontRequests frontOutput frontResult goodOutput goodResult badRequests badResult
  obtain ⟨-, ends⟩ :=
    run_append_of_memoryless resolver configuration memoryless delivered (.inr whole) good
  obtain ⟨-, fails⟩ :=
    run_append_of_memoryless resolver configuration memoryless delivered (.inr whole) bad
  obtain ⟨output, -, result, -⟩ := ends ⟨2, 1, 1, 0⟩ (frontResult.trans (by rfl))
  obtain ⟨-, requests, -, error⟩ := fails ⟨2, 1, 1, 0⟩ (frontResult.trans (by rfl))
  refine ⟨⟨memoryless, delivered, whole⟩, ⟨?_, ?_⟩, ?_, ?_⟩
  · exact result ⟨2, 2, 1, 1⟩ (goodResult.trans (by rfl))
  · rw [output, frontOutput, goodOutput]
    decide +kernel
  · exact error (.read .denied) (badResult.trans (by rfl))
  · rw [requests, frontRequests, badRequests]
    rfl

end Decoding
end Backtrace
