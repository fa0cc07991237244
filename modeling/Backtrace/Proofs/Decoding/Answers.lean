import Backtrace.Proofs.Decoding.OverLines
import Backtrace.Proofs.Sink.Room

/-!
# What a run makes of the resolver's answers

With an output that takes everything, a run is determined by the answers to its requests, taken
in the order of the frames. As long as the resolver answers, every frame costs one request and
every resolved one adds its line to the output; the first answer that is a failure ends the run
with everything before it done and nothing after it looked at.
-/

namespace Backtrace

namespace Entry

/-- The bytes of the line of an entry, with its end. -/
def bytes (entry : Entry) : Bytes := Utf8.encode (entry.text ++ ['\n'])

/-- To a sink the two writes of a line are one. -/
theorem write_sink (entry : Entry) (sink : Sink) :
    entry.write sink = Writer.writeAll sink entry.bytes := by
  rw [bytes, Utf8.encode_append, Sink.writeAll_append]
  rfl

/-- A sink without a limit takes the line. -/
theorem write_unlimited (entry : Entry) :
    entry.write Sink.unlimited = ⟨entry.bytes, .ok (), .unlimited⟩ := by
  rw [write_sink, Sink.writeAll_unlimited]

end Entry

/-- An address with what the resolver answered to the request for it. -/
structure Answer where
  /-- The address that was looked up. -/
  address : Address
  /-- The answer, or why there is none. -/
  outcome : Except LaunchFailure Resolution

namespace Answer

/-- The line that is written for a known place, with its end; nothing for any other answer. -/
def written : Answer → Bytes
  | ⟨address, .ok (.resolved symbol)⟩ =>
    Utf8.encode (address.spelling ++ " - ".toList ++ symbol.function ++ " @ ".toList ++
      symbol.location ++ ['\n'])
  | _ => []

/-- The address has a known place. -/
def isResolved : Answer → Bool
  | ⟨_, .ok (.resolved _)⟩ => true
  | _ => false

/-- The address is known to have no known place. -/
def isUnresolved : Answer → Bool
  | ⟨_, .ok .unresolved⟩ => true
  | _ => false

/-- Why there is no answer, if there is none. -/
def failure? : Answer → Option LaunchFailure
  | ⟨_, .error failure⟩ => some failure
  | _ => none

/-- Where there is no answer nothing is written. -/
theorem written_of_failure {answer : Answer} {failure : LaunchFailure}
    (failed : answer.failure? = some failure) : answer.written = [] := by
  unfold failure? at failed
  split at failed
  · rfl
  · simp at failed

/-- Every address that was answered is resolved or not. -/
theorem length_eq_of_answered {answers : List Answer}
    (answered : ∀ answer ∈ answers, answer.failure? = none) :
    answers.length = answers.countP isResolved + answers.countP isUnresolved := by
  induction answers with
  | nil => rfl
  | cons answer later ih =>
    have rest := ih fun other inside => answered other (by simp [inside])
    have first := answered answer (by simp)
    match answer with
    | ⟨_, .ok (.resolved _)⟩ =>
      simp only [List.length_cons, List.countP_cons, isResolved, isUnresolved, rest, if_true,
        Bool.false_eq_true, if_false]
      omega
    | ⟨_, .ok .unresolved⟩ =>
      simp only [List.length_cons, List.countP_cons, isResolved, isUnresolved, rest, if_true,
        Bool.false_eq_true, if_false]
      omega
    | ⟨_, .error _⟩ => simp [failure?] at first

end Answer

/-- What a number of lines and the answers for their frames add up to. -/
def Summary.ofAnswers (lines : Nat) (answers : List Answer) : Summary :=
  ⟨lines, answers.length, answers.countP Answer.isResolved, answers.countP Answer.isUnresolved⟩

/-- The answers add to the counts of lines one by one. -/
theorem Summary.ofAnswers_cons (lines : Nat) (answer : Answer) (answers : List Answer) :
    Summary.ofAnswers 0 [answer] + Summary.ofAnswers lines answers =
      Summary.ofAnswers lines (answer :: answers) := by
  simp [Summary.ofAnswers, Summary.add_def, List.countP_cons, Nat.add_comm]

namespace Resolver

/-- The answer to the request for an address, after a number of earlier requests. -/
def answerTo (resolver : Resolver) (configuration : Configuration) (asked : Nat)
    (address : Address) : Answer :=
  ⟨address, (resolver.answer asked (configuration.request address)).outcome⟩

/-- The answers to requests for some addresses in order, after a number of earlier requests. -/
def answers (resolver : Resolver) (configuration : Configuration) (asked : Nat)
    (addresses : List Address) : List Answer :=
  (addresses.zipIdx asked).map fun (address, place) =>
    resolver.answerTo configuration place address

variable (resolver : Resolver) (configuration : Configuration) (asked : Nat)

/-- The first address is asked for first. -/
theorem answers_cons (address : Address) (addresses : List Address) :
    resolver.answers configuration asked (address :: addresses) =
      resolver.answerTo configuration asked address ::
        resolver.answers configuration (asked + 1) addresses := by
  simp [answers]

/-- Every address has one answer. -/
@[simp] theorem length_answers (addresses : List Address) :
    (resolver.answers configuration asked addresses).length = addresses.length := by
  simp [answers]

/-- The answers are for the addresses that were asked for. -/
@[simp] theorem map_address_answers (addresses : List Address) :
    (resolver.answers configuration asked addresses).map Answer.address = addresses := by
  have each : (Answer.address ∘ fun (address, place) =>
      resolver.answerTo configuration place address) = Prod.fst := rfl
  rw [answers, List.map_map, each, List.zipIdx_map_fst]

/-- A resolver that answers every request has no failure among its answers. -/
theorem failure?_of_answering {resolver : Resolver} (answering : ∀ asked request, ∃ resolution,
      (resolver.answer asked request).outcome = .ok resolution)
    (configuration : Configuration) (asked : Nat) (addresses : List Address) :
    ∀ answer ∈ resolver.answers configuration asked addresses, answer.failure? = none := by
  intro answer inside
  obtain ⟨⟨address, place⟩, -, rfl⟩ := List.mem_map.1 inside
  obtain ⟨resolution, outcome⟩ := answering place (configuration.request address)
  simp only [answerTo, outcome, Answer.failure?]

/-- Addresses in two parts are asked for part after part. -/
theorem answers_append (front back : List Address) :
    resolver.answers configuration asked (front ++ back) =
      resolver.answers configuration asked front ++
        resolver.answers configuration (asked + front.length) back := by
  simp [answers, List.zipIdx_append]

/-- The first answers are those for the first addresses. -/
theorem take_answers (count : Nat) (addresses : List Address) :
    (resolver.answers configuration asked addresses).take count =
      resolver.answers configuration asked (addresses.take count) := by
  induction addresses generalizing asked count with
  | nil => rw [answers, List.zipIdx_nil, List.map_nil, List.take_nil, List.take_nil]; rfl
  | cons address later ih =>
    cases count with
    | zero => rfl
    | succ count =>
      rw [answers_cons, List.take_succ_cons, List.take_succ_cons, answers_cons, ih]

end Resolver

namespace Decoding

variable {σ : Type} [Writer σ] {resolver : Resolver} {configuration : Configuration} {asked : Nat}
  {address : Address}

/-- Handling a frame asks for it once. -/
theorem requests_handle (writer : σ) (number : Nat) :
    (handle resolver configuration asked writer number address).activity.requests =
      [configuration.request address] := by
  unfold handle
  dsimp only
  split <;> rfl

/-- With an output that takes everything, handling a frame comes to what the answer says. -/
theorem handle_unlimited (number : Nat) :
    let reply := resolver.answer asked (configuration.request address)
    let answer := resolver.answerTo configuration asked address
    handle resolver configuration asked Sink.unlimited number address =
      ⟨match answer.failure? with
        | some failure => .error (.launch failure)
        | none => .ok (.ofAnswers 0 [answer]),
        ⟨answer.written, [configuration.request address], reply.invocations, reply.records ++
          if answer.isUnresolved then [.unresolvedFrame number address resolver.name] else []⟩,
        .unlimited⟩ := by
  unfold handle Resolver.answerTo
  dsimp only
  split
  · rename_i outcome
    simp only [outcome, Answer.failure?, Answer.isUnresolved, Bool.false_eq_true, if_false,
      List.append_nil]
    rfl
  · rename_i outcome
    simp only [outcome, Answer.failure?, Answer.isUnresolved, if_true, Activity.append_def,
      Activity.ofRecords, Activity.none, List.append_nil]
    rfl
  · rename_i outcome
    simp only [outcome, Entry.write_unlimited, Answer.failure?, Answer.isUnresolved,
      Bool.false_eq_true, if_false, List.append_nil]
    rfl

/-- Handling a frame writes the line of its answer. -/
theorem output_handle (number : Nat) :
    (handle resolver configuration asked Sink.unlimited number address).activity.output =
      (resolver.answerTo configuration asked address).written := by
  rw [handle_unlimited]

/-- A failure to launch the resolver is the outcome of handling the frame. -/
theorem outcome_handle_of_failure {failure : LaunchFailure}
    (failed : (resolver.answerTo configuration asked address).failure? = some failure)
    (number : Nat) :
    (handle resolver configuration asked Sink.unlimited number address).outcome =
      .error (.launch failure) := by
  rw [handle_unlimited, failed]

/-- An answer counts the frame. -/
theorem outcome_handle_of_answered
    (answered : (resolver.answerTo configuration asked address).failure? = none)
    (number : Nat) :
    (handle resolver configuration asked Sink.unlimited number address).outcome =
      .ok (.ofAnswers 0 [resolver.answerTo configuration asked address]) := by
  rw [handle_unlimited, answered]

/-- A sink without a limit is left as it is. -/
theorem writer_handle (number : Nat) :
    (handle resolver configuration asked Sink.unlimited number address).writer = .unlimited := by
  rw [handle_unlimited]

/-- The addresses of the frames among some lines, in order. -/
def addressesIn (lines : List Bytes) : List Address :=
  (lines.map Utf8.decodeLossy).filterMap Frame.address?

/-- A line that is no frame has no address. -/
theorem addressesIn_cons_of_none {line : Bytes}
    (noise : Frame.address? (Utf8.decodeLossy line) = none) (lines : List Bytes) :
    addressesIn (line :: lines) = addressesIn lines := by
  rw [addressesIn, List.map_cons, List.filterMap_cons_none noise, addressesIn]

/-- A line that is a frame has its address. -/
theorem addressesIn_cons_of_some {line : Bytes}
    (frame : Frame.address? (Utf8.decodeLossy line) = some address) (lines : List Bytes) :
    addressesIn (line :: lines) = address :: addressesIn lines := by
  rw [addressesIn, List.map_cons, List.filterMap_cons_some frame, addressesIn]

variable {number : Nat} {fault : Option FinalFault} {line : Bytes}

/-- An answered frame is asked for, written and counted before the lines after it. -/
theorem overLines_cons_of_answered (frame : Frame.address? (Utf8.decodeLossy line) = some address)
    (answered : (resolver.answerTo configuration asked address).failure? = none)
    (later : List Bytes) :
    let answer := resolver.answerTo configuration asked address
    let rest := overLines resolver configuration fault (asked + 1) Sink.unlimited (number + 1) later
    let run := overLines resolver configuration fault asked Sink.unlimited number (line :: later)
    run.activity.requests = configuration.request address :: rest.activity.requests ∧
      run.activity.output = answer.written ++ rest.activity.output ∧
      run.result = rest.result.map (.ofAnswers 0 [answer] + ·) := by
  dsimp only
  rw [overLines_cons_of_some frame, Handling.proceed_of_ok (outcome_handle_of_answered answered _),
    writer_handle]
  refine ⟨?_, ?_, ?_⟩
  · rw [Run.requests_following, requests_handle]
    rfl
  · rw [Run.output_following, output_handle]
  · rw [Run.result_following]

/-- A frame that is asked for in vain ends the run, and nothing is written for it. -/
theorem overLines_cons_of_failure (frame : Frame.address? (Utf8.decodeLossy line) = some address)
    {failure : LaunchFailure}
    (failed : (resolver.answerTo configuration asked address).failure? = some failure)
    (later : List Bytes) :
    let run := overLines resolver configuration fault asked Sink.unlimited number (line :: later)
    run.activity.requests = [configuration.request address] ∧ run.activity.output = [] ∧
      run.result = .error (.launch failure) := by
  dsimp only
  rw [overLines_cons_of_some frame, Handling.proceed_of_error (outcome_handle_of_failure failed _)]
  refine ⟨requests_handle _ _, ?_, rfl⟩
  rw [output_handle, Answer.written_of_failure failed]

variable (number)

/-- A run in which every request is answered asks for every frame, writes the line of every
resolved one and counts all of them; it fails only if the input did. -/
theorem overLines_of_answered {lines : List Bytes} (fault : Option FinalFault)
    (answered : ∀ answer ∈ resolver.answers configuration asked (addressesIn lines),
      answer.failure? = none) :
    let answers := resolver.answers configuration asked (addressesIn lines)
    let run := overLines resolver configuration fault asked Sink.unlimited number lines
    run.activity.requests = (addressesIn lines).map configuration.request ∧
      run.activity.output = answers.flatMap Answer.written ∧
      run.result =
        match fault with
        | some fault => .error (.read fault)
        | none => .ok (.ofAnswers (number + lines.length) answers) := by
  induction lines generalizing asked number with
  | nil => cases fault <;> exact ⟨rfl, rfl, rfl⟩
  | cons line later ih =>
    have length : number + (line :: later).length = number + 1 + later.length := by
      rw [List.length_cons]
      omega
    dsimp only
    rw [length]
    cases found : Frame.address? (Utf8.decodeLossy line) with
    | none =>
      rw [addressesIn_cons_of_none found] at answered ⊢
      rw [overLines_cons_of_none found]
      exact ih _ answered
    | some address =>
      rw [addressesIn_cons_of_some found, Resolver.answers_cons] at answered ⊢
      have first := answered _ List.mem_cons_self
      have others : ∀ answer ∈ resolver.answers configuration (asked + 1) (addressesIn later),
          answer.failure? = none := fun answer inside =>
        answered answer (List.mem_cons_of_mem _ inside)
      obtain ⟨requests, output, result⟩ := overLines_cons_of_answered found first later
      obtain ⟨laterRequests, laterOutput, laterResult⟩ := ih (number + 1) others
      refine ⟨?_, ?_, ?_⟩
      · rw [requests, laterRequests, List.map_cons]
      · rw [output, laterOutput, List.flatMap_cons]
      · rw [result, laterResult]
        cases fault with
        | none => exact congrArg Except.ok (Summary.ofAnswers_cons _ _ _)
        | some fault => rfl

/-- A run ends with the first failure to launch the resolver. The frames up to and with that one
were asked for, and those before it have their lines in the output. -/
theorem overLines_of_failure {lines : List Bytes} (fault : Option FinalFault)
    {earlier later : List Answer} {answer : Answer} {failure : LaunchFailure}
    (split : resolver.answers configuration asked (addressesIn lines) = earlier ++ answer :: later)
    (answered : ∀ answer ∈ earlier, answer.failure? = none)
    (failed : answer.failure? = some failure) :
    let run := overLines resolver configuration fault asked Sink.unlimited number lines
    run.activity.requests =
        ((addressesIn lines).take (earlier.length + 1)).map configuration.request ∧
      run.activity.output = earlier.flatMap Answer.written ∧
      run.result = .error (.launch failure) := by
  induction lines generalizing asked number earlier with
  | nil => simp [addressesIn, Resolver.answers] at split
  | cons line rest ih =>
    dsimp only
    cases found : Frame.address? (Utf8.decodeLossy line) with
    | none =>
      rw [addressesIn_cons_of_none found] at split ⊢
      rw [overLines_cons_of_none found]
      exact ih _ split answered
    | some address =>
      rw [addressesIn_cons_of_some found] at split ⊢
      rw [Resolver.answers_cons] at split
      cases earlier with
      | nil =>
        obtain ⟨rfl, -⟩ := List.cons.inj split
        exact overLines_cons_of_failure found failed rest
      | cons first others =>
        obtain ⟨rfl, remaining⟩ := List.cons.inj split
        have good : ∀ other ∈ others, other.failure? = none := fun other inside =>
          answered other (List.mem_cons_of_mem _ inside)
        obtain ⟨requests, output, result⟩ :=
          overLines_cons_of_answered found (answered _ List.mem_cons_self) rest
        obtain ⟨laterRequests, laterOutput, laterResult⟩ := ih (number + 1) remaining good
        refine ⟨?_, ?_, ?_⟩
        · rw [requests, laterRequests, List.length_cons, List.take_succ_cons, List.map_cons]
        · rw [output, laterOutput, List.flatMap_cons]
        · rw [result, laterResult]
          rfl

/-- What follows the lines among which a request failed makes no difference to the run. -/
theorem overLines_append_of_failure {lines : List Bytes} (fault other : Option FinalFault)
    (failed : ∃ answer ∈ resolver.answers configuration asked (addressesIn lines),
      answer.failure? ≠ none) (rest others : List Bytes) :
    overLines resolver configuration fault asked Sink.unlimited number (lines ++ rest) =
      overLines resolver configuration other asked Sink.unlimited number (lines ++ others) := by
  induction lines generalizing asked number with
  | nil => simp [addressesIn, Resolver.answers] at failed
  | cons line later ih =>
    rw [List.cons_append, List.cons_append]
    cases found : Frame.address? (Utf8.decodeLossy line) with
    | none =>
      rw [addressesIn_cons_of_none found] at failed
      rw [overLines_cons_of_none found, overLines_cons_of_none found, ih _ failed]
    | some address =>
      rw [addressesIn_cons_of_some found, Resolver.answers_cons] at failed
      rw [overLines_cons_of_some found, overLines_cons_of_some found]
      cases first : (resolver.answerTo configuration asked address).failure? with
      | some failure =>
        have ended := outcome_handle_of_failure first (number + 1)
        rw [Handling.proceed_of_error ended, Handling.proceed_of_error ended]
      | none =>
        have goes := outcome_handle_of_answered first (number + 1)
        have after : ∃ answer ∈ resolver.answers configuration (asked + 1) (addressesIn later),
            answer.failure? ≠ none := by
          obtain ⟨answer, inside, bad⟩ := failed
          rcases List.mem_cons.1 inside with rfl | inside
          · exact absurd first bad
          · exact ⟨answer, inside, bad⟩
        rw [Handling.proceed_of_ok goes, Handling.proceed_of_ok goes, writer_handle, ih _ after]

end Decoding
end Backtrace
