import Backtrace.Proofs.Decoding.FirstFault
import Backtrace.Proofs.Decoding.OverAnswers
import Backtrace.Proofs.Sink.Room

/-!
# Runs with a limited output

An output that takes a number of bytes in all cuts the output of a run there and nowhere else. As
long as the bytes fit, the run is the one with an output that takes everything; the first line
that does not fit is taken as far as it does, and the run ends with the fault of the write, with
no frame after that line asked for. An output that fails when it is flushed changes only the
result of a run that would have ended well.
-/

namespace Backtrace

/-- To a sink the writes for an answer are one. -/
theorem Answer.write_sink (answer : Answer) (sink : Sink) :
    answer.write sink = Writer.writeAll sink answer.written := by
  have nothing : Writer.writeAll sink [] = ⟨[], .ok (), sink⟩ := Writer.writeOut_nil
  match answer with
  | ⟨address, .ok (.resolved symbol)⟩ => exact Entry.write_sink ⟨address, symbol⟩ sink
  | ⟨_, .ok .unresolved⟩ => exact nothing.symm
  | ⟨_, .error _⟩ => exact nothing.symm

namespace Decoding

open Trace LineMachine

variable {configuration : Configuration} {fault : Option FinalFault} {lines : Nat}
  {sink after : Sink} {answer : Answer}

/-! ## One answer -/

/-- A frame without an answer ends the run, with nothing written for it. -/
theorem overAnswers_cons_of_failure {failure : LaunchFailure}
    (failed : answer.failure? = some failure) (later : List Answer) :
    overAnswers configuration fault lines sink (answer :: later) =
      ⟨.error (.launch failure), ⟨[], [configuration.request answer.address], [], []⟩, sink⟩ := by
  have outcome : (settle configuration sink answer).outcome = .error (.launch failure) := by
    simp only [settle, failed]
  rw [overAnswers, Handling.proceed_of_error outcome, settle, Answer.write_of_failure failed]

/-- A frame whose line is taken is counted, and the run goes on. -/
theorem overAnswers_cons_of_taken (answered : answer.failure? = none) {taken : Bytes}
    (written : Writer.writeAll sink answer.written = ⟨taken, .ok (), after⟩)
    (later : List Answer) :
    overAnswers configuration fault lines sink (answer :: later) =
      (overAnswers configuration fault lines after later).following (.ofAnswers 0 [answer])
        ⟨taken, [configuration.request answer.address], [], []⟩ := by
  rw [← Answer.write_sink] at written
  have outcome : (settle configuration sink answer).outcome = .ok (.ofAnswers 0 [answer]) := by
    simp only [settle, answered, written]
    rfl
  rw [overAnswers, Handling.proceed_of_ok outcome, settle, written]

/-- A frame whose line is refused ends the run, with what was taken of the line. -/
theorem overAnswers_cons_of_refused (answered : answer.failure? = none) {taken : Bytes}
    {reason : Fault} (refused : Writer.writeAll sink answer.written = ⟨taken, .error reason, after⟩)
    (later : List Answer) :
    overAnswers configuration fault lines sink (answer :: later) =
      ⟨.error (.write reason), ⟨taken, [configuration.request answer.address], [], []⟩, after⟩ := by
  rw [← Answer.write_sink] at refused
  have outcome : (settle configuration sink answer).outcome = .error (.write reason) := by
    simp only [settle, answered, refused]
    rfl
  rw [overAnswers, Handling.proceed_of_error outcome, settle, refused]

/-- With an output that takes everything an answered frame has its line at the front. -/
theorem overAnswers_unlimited_cons (answered : answer.failure? = none) (later : List Answer) :
    overAnswers configuration fault lines Sink.unlimited (answer :: later) =
      (overAnswers configuration fault lines Sink.unlimited later).following
        (.ofAnswers 0 [answer])
        ⟨answer.written, [configuration.request answer.address], [], []⟩ :=
  overAnswers_cons_of_taken answered (Sink.writeAll_unlimited _) later

/-! ## All answers -/

/-- As long as the output fits, a limit makes no difference. -/
theorem overAnswers_of_holds {answers : List Answer} (flushed : sink.flushFault = none)
    (enough : sink.Holds
      (overAnswers configuration fault lines Sink.unlimited answers).activity.output.length) :
    let free := overAnswers configuration fault lines Sink.unlimited answers
    overAnswers configuration fault lines sink answers =
      { free with writer := sink.after free.activity.output.length } := by
  induction answers generalizing sink with
  | nil =>
    cases fault with
    | some fault => simp [overAnswers, Activity.none, Sink.after_zero]
    | none =>
      have steady : Writer.flush sink = (.ok (), sink) := Sink.flush_of_steady flushed
      have free : Writer.flush Sink.unlimited = (.ok (), Sink.unlimited) := rfl
      simp [overAnswers, finish, steady, free, Activity.none, Sink.after_zero]
  | cons answer later ih =>
    dsimp only
    cases outcome : answer.failure? with
    | some failure =>
      rw [overAnswers_cons_of_failure outcome, overAnswers_cons_of_failure outcome]
      simp [Sink.after_zero]
    | none =>
      rw [overAnswers_unlimited_cons outcome] at enough ⊢
      rw [Run.output_following, List.length_append, Sink.holds_add_iff] at enough
      obtain ⟨first, rest⟩ := enough
      have still : (sink.after answer.written.length).flushFault = none := flushed
      rw [overAnswers_cons_of_taken outcome (Sink.writeAll_of_holds first), ih still rest,
        Run.output_following, List.length_append, ← Sink.after_after]
      rfl

/-- An output that does not fit is cut at the limit. The frame whose line holds the first byte
without room is the last to be asked for. -/
theorem overAnswers_of_limited {answers : List Answer} {room : Nat}
    (limited : sink.room = some room)
    (exceeded : room <
      (overAnswers configuration fault lines Sink.unlimited answers).activity.output.length) :
    let free := overAnswers configuration fault lines Sink.unlimited answers
    ∃ earlier answer later, answers = earlier ++ answer :: later ∧
      (earlier ++ [answer]).flatMap Answer.written <+: free.activity.output ∧
      (earlier.flatMap Answer.written).length ≤ room ∧
      room < ((earlier ++ [answer]).flatMap Answer.written).length ∧
      ((earlier ++ [answer]).map fun answer => configuration.request answer.address) <+:
        free.activity.requests ∧
      overAnswers configuration fault lines sink answers =
        ⟨.error (.write (Sink.refusing sink.refusal)),
          ⟨free.activity.output.take room,
            (earlier ++ [answer]).map fun answer => configuration.request answer.address,
            [], []⟩, sink.after room⟩ := by
  induction answers generalizing sink room with
  | nil => cases fault <;> simp [overAnswers, finish, Activity.none] at exceeded
  | cons answer later ih =>
    dsimp only
    cases outcome : answer.failure? with
    | some failure =>
      rw [overAnswers_cons_of_failure outcome] at exceeded
      simp at exceeded
    | none =>
      rw [overAnswers_unlimited_cons outcome] at exceeded ⊢
      rw [Run.output_following, List.length_append] at exceeded
      change room < answer.written.length + _ at exceeded
      rw [Run.output_following, Run.requests_following]
      by_cases first : answer.written.length ≤ room
      · -- The line fits, and the byte without room lies in a later one.
        have holds : sink.Holds answer.written.length := by
          intro most found
          rw [limited] at found
          rwa [← Option.some.inj found]
        have left : (sink.after answer.written.length).room =
            some (room - answer.written.length) := by simp [Sink.after, limited]
        obtain ⟨earlier, last, others, rfl, output, low, high, requests, cut⟩ :=
          ih left (by omega)
        refine ⟨answer :: earlier, last, others, rfl, ?_, ?_, ?_, ?_, ?_⟩
        · rw [List.cons_append, List.flatMap_cons]
          exact (List.prefix_append_right_inj _).2 output
        · rw [List.flatMap_cons, List.length_append]
          omega
        · rw [List.cons_append, List.flatMap_cons, List.length_append]
          omega
        · rw [List.cons_append, List.map_cons]
          exact (List.prefix_append_right_inj [_]).2 requests
        · rw [overAnswers_cons_of_taken outcome (Sink.writeAll_of_holds holds), cut,
            List.take_append, List.take_of_length_le first, Sink.after_after,
            Nat.add_sub_cancel' first]
          rfl
      · -- The line itself holds the byte without room.
        have short : room < answer.written.length := by omega
        have line : ([] ++ [answer]).flatMap Answer.written = answer.written := by simp
        refine ⟨[], answer, later, rfl, ?_, Nat.zero_le room, ?_, ?_, ?_⟩
        · rw [line]
          exact List.prefix_append _ _
        · rw [line]
          exact short
        · exact List.prefix_append _ _
        · rw [overAnswers_cons_of_refused outcome (Sink.writeAll_of_limited limited short),
            List.take_append_of_le_length (Nat.le_of_lt short)]
          rfl

/-- A flush that fails is the result of a run that would have ended well, and makes no other
difference. -/
theorem overAnswers_flushFault (sink : Sink) (flaw : Fault) (answers : List Answer) :
    let steady := overAnswers configuration fault lines { sink with flushFault := none } answers
    overAnswers configuration fault lines { sink with flushFault := some flaw } answers =
      ⟨steady.result.bind fun _ => .error (.write flaw), steady.activity,
        { steady.writer with flushFault := some flaw }⟩ := by
  induction answers generalizing sink with
  | nil => cases fault <;> rfl
  | cons answer later ih =>
    dsimp only
    cases outcome : answer.failure? with
    | some failure =>
      rw [overAnswers_cons_of_failure outcome, overAnswers_cons_of_failure outcome]
      rfl
    | none =>
      have steady := Sink.writeAll_flushFault sink none answer.written
      have failing := Sink.writeAll_flushFault sink (some flaw) answer.written
      cases written : (Writer.writeAll sink answer.written).result with
      | error reason =>
        rw [written] at steady failing
        rw [overAnswers_cons_of_refused outcome steady,
          overAnswers_cons_of_refused outcome failing]
        rfl
      | ok =>
        rw [written] at steady failing
        rw [overAnswers_cons_of_taken outcome steady, overAnswers_cons_of_taken outcome failing,
          ih (Writer.writeAll sink answer.written).writer, Run.following, Run.following]
        dsimp only
        cases (overAnswers configuration fault lines
          { (Writer.writeAll sink answer.written).writer with flushFault := none }
          later).result <;> rfl

/-! ## Whole runs -/

variable (resolver : Resolver) (configuration : Configuration) (input : List ReadEvent)

/-- With an output that takes everything, the run over the answers has the output and the requests
of the whole run. -/
theorem overAnswers_unlimited :
    let stream := FrameStream.ofInput input
    let answers := resolver.answers configuration 0 (stream.frames.map Prod.snd)
    let free := overAnswers configuration stream.fault? stream.totalLines Sink.unlimited answers
    free.activity.output = (run resolver configuration Sink.unlimited input).activity.output ∧
      free.activity.requests =
        (run resolver configuration Sink.unlimited input).activity.requests := by
  intro stream answers free
  have same : (run resolver configuration Sink.unlimited input).exchanged = free :=
    exchanged_run Sink.unlimited input
  rw [← same]
  exact ⟨rfl, rfl⟩

/-- A run whose output fits shows what it shows with an output that takes everything. -/
theorem run_of_holds (flushed : sink.flushFault = none)
    (enough : sink.Holds (run resolver configuration Sink.unlimited input).activity.output.length) :
    let free := run resolver configuration Sink.unlimited input
    let limited := run resolver configuration sink input
    limited.result = free.result ∧ limited.activity.output = free.activity.output ∧
      limited.activity.requests = free.activity.requests := by
  intro free limited
  have shown : free.exchanged = _ := exchanged_run Sink.unlimited input
  have same : limited.exchanged = _ := exchanged_run sink input
  rw [← (overAnswers_unlimited resolver configuration input).1] at enough
  rw [overAnswers_of_holds flushed enough, ← shown] at same
  obtain ⟨result, output, requests, -⟩ := Run.of_exchanged same
  exact ⟨result, output, requests⟩

/-- A run whose output does not fit is cut at the limit, and the frame whose line holds the first
byte without room is the last one that is asked for. -/
theorem run_of_exceeded {room : Nat} (limited : sink.room = some room)
    (exceeded : room < (run resolver configuration Sink.unlimited input).activity.output.length) :
    let addresses := (FrameStream.ofInput input).frames.map Prod.snd
    let free := run resolver configuration Sink.unlimited input
    let cut := run resolver configuration sink input
    cut.activity.output = free.activity.output.take room ∧
      cut.result = .error (.write (Sink.refusing sink.refusal)) ∧
      ∃ earlier answer later,
        resolver.answers configuration 0 addresses = earlier ++ answer :: later ∧
        (earlier ++ [answer]).flatMap Answer.written <+: free.activity.output ∧
        (earlier.flatMap Answer.written).length ≤ room ∧
        room < ((earlier ++ [answer]).flatMap Answer.written).length ∧
        cut.activity.requests = (addresses.take (earlier.length + 1)).map configuration.request ∧
        cut.activity.requests <+: free.activity.requests := by
  intro addresses free cut
  obtain ⟨output, requests⟩ := overAnswers_unlimited resolver configuration input
  rw [← output] at exceeded
  obtain ⟨earlier, answer, later, split, line, low, high, asked, whole⟩ :=
    overAnswers_of_limited limited exceeded
  obtain ⟨result, taken, made, -⟩ := Run.of_exchanged ((exchanged_run sink input).trans whole)
  rw [output] at line taken
  rw [requests, ← made] at asked
  -- The frames that are asked for are the first ones, as many as have an answer by then.
  have first : (earlier ++ [answer]).map Answer.address = addresses.take (earlier.length + 1) := by
    have whole := congrArg (List.map Answer.address) split
    rw [Resolver.map_address_answers] at whole
    change addresses = _ at whole
    rw [whole, ← List.map_take, List.take_length_add_append]
    rfl
  refine ⟨taken, result, earlier, answer, later, split, line, low, high, ?_, asked⟩
  rw [← first, List.map_map]
  exact made

/-- A flush that fails is the result of a run that would have ended well, and makes no other
difference to what a run shows. -/
theorem run_of_flushFault (room : Option Nat) (refusal : Option FinalFault) (flaw : Fault) :
    let steady := run resolver configuration (Sink.mk room refusal none) input
    let failing := run resolver configuration (Sink.mk room refusal (some flaw)) input
    failing.result = (steady.result.bind fun _ => .error (.write flaw)) ∧
      failing.activity.output = steady.activity.output ∧
      failing.activity.requests = steady.activity.requests := by
  intro steady failing
  have shown : steady.exchanged = _ := exchanged_run (Sink.mk room refusal none) input
  have changed : failing.exchanged = _ := exchanged_run (Sink.mk room refusal (some flaw)) input
  have flushed := changed.trans (overAnswers_flushFault ⟨room, refusal, none⟩ flaw _)
  rw [← shown] at flushed
  obtain ⟨result, output, requests, -⟩ := Run.of_exchanged flushed
  exact ⟨result, output, requests⟩

/-- An output that takes a number of bytes in all cuts a run at the first byte without room, and
the frame of that byte is the last one that is asked for. An output that fails when it is flushed
fails exactly the runs that would have ended well. -/
theorem run_of_limited_output (resolver : Resolver) (configuration : Configuration)
    (input : List ReadEvent) :
    let addresses := (FrameStream.ofInput input).frames.map Prod.snd
    let free := run resolver configuration Sink.unlimited input
    (∀ room refusal,
      let limited := run resolver configuration (Sink.mk (some room) refusal none) input
      (free.activity.output.length ≤ room →
        limited.activity.output = free.activity.output ∧
          limited.activity.requests = free.activity.requests ∧ limited.result = free.result) ∧
      (room < free.activity.output.length →
        limited.activity.output = free.activity.output.take room ∧
          limited.result = .error (.write (Sink.refusing refusal)) ∧
          ∃ earlier answer later,
            resolver.answers configuration 0 addresses = earlier ++ answer :: later ∧
            (earlier ++ [answer]).flatMap Answer.written <+: free.activity.output ∧
            (earlier.flatMap Answer.written).length ≤ room ∧
            room < ((earlier ++ [answer]).flatMap Answer.written).length ∧
            limited.activity.requests =
              (addresses.take (earlier.length + 1)).map configuration.request ∧
            limited.activity.requests <+: free.activity.requests)) ∧
    ∀ room refusal flaw,
      let steady := run resolver configuration (Sink.mk room refusal none) input
      let failing := run resolver configuration (Sink.mk room refusal (some flaw)) input
      (∀ summary, steady.result = .ok summary →
        failing.result = .error (.write flaw) ∧
          failing.activity.output = free.activity.output ∧
          failing.activity.requests = addresses.map configuration.request) ∧
      ∀ error, steady.result = .error error →
        failing.result = .error error ∧
          failing.activity.output = steady.activity.output ∧
          failing.activity.requests = steady.activity.requests := by
  intro addresses free
  refine ⟨?_, ?_⟩
  · intro room refusal limited
    refine ⟨?_, ?_⟩
    · intro fits
      have enough : (Sink.mk (some room) refusal none).Holds free.activity.output.length := by
        intro most found
        rwa [← Option.some.inj found]
      obtain ⟨result, output, requests⟩ := run_of_holds resolver configuration input rfl enough
      exact ⟨output, requests, result⟩
    · intro exceeded
      exact run_of_exceeded resolver configuration input rfl exceeded
  · intro room refusal flaw steady failing
    obtain ⟨result, output, requests⟩ :=
      run_of_flushFault resolver configuration input room refusal flaw
    refine ⟨?_, ?_⟩
    · intro summary ended
      -- A limit below the length of the whole output would have ended the run.
      have enough : (Sink.mk room refusal none).Holds free.activity.output.length := by
        refine Decidable.byContradiction fun short => ?_
        obtain ⟨most, limit, exceeded⟩ := Sink.exists_room_of_not_holds short
        have cut := (run_of_exceeded resolver configuration input limit exceeded).2.1
        rw [cut] at ended
        simp at ended
      obtain ⟨agreed, written, made⟩ := run_of_holds resolver configuration input rfl enough
      have answered := answered_of_ok (agreed.symm.trans ended)
      have all := (run_of_answered resolver configuration answered).1
      refine ⟨?_, output.trans written, (requests.trans made).trans all⟩
      rw [result, ended]
      rfl
    · intro error failed
      refine ⟨?_, output, requests⟩
      rw [result, failed]
      rfl

/-- An output that is full between the lines of two frames, before a frame for which the resolver
does not start; the same run with room for both lines; and an output that fails when flushed. -/
theorem run_of_limited_output_between :
    let resolver : Resolver := ⟨"table".toList, fun asked _ =>
      ⟨if asked = 2 then .error ⟨.ofText "addr2line".toList, .missing⟩
        else .ok (.resolved ⟨"main".toList, "a.c:7".toList⟩), [], []⟩⟩
    let configuration : Configuration :=
      ⟨.ofText "kboot.elf".toList, .ofText "addr2line".toList⟩
    let run (sink : Sink) := run resolver configuration sink
    let three : List ReadEvent := [.bytes (Utf8.encode " 0x1\n 0x2\n 0x3\n".toList)]
    let one : List ReadEvent := [.bytes (Utf8.encode " 0x1\n".toList)]
    let first := Utf8.encode "0x1 - main @ a.c:7\n".toList
    let second := Utf8.encode "0x2 - main @ a.c:7\n".toList
    ((run .unlimited three).activity.output = first ++ second ∧
      (run ⟨some 19, some ⟨.denied, rfl⟩, none⟩ three).result = .error (.write .denied) ∧
      (run ⟨some 19, some ⟨.denied, rfl⟩, none⟩ three).activity.output = first ∧
      (run ⟨some 19, some ⟨.denied, rfl⟩, none⟩ three).activity.requests.length = 2) ∧
    ((run ⟨some 38, none, none⟩ three).result = (run .unlimited three).result ∧
      (run ⟨some 38, none, none⟩ three).activity.output = first ++ second) ∧
    ((run ⟨some 19, none, none⟩ one).result = .ok ⟨1, 1, 1, 0⟩ ∧
      (run ⟨some 19, none, some .denied⟩ one).result = .error (.write .denied) ∧
      (run ⟨some 19, none, some .denied⟩ one).activity.output = first) := by
  intro resolver configuration run three one first second
  obtain ⟨limits, -⟩ := run_of_limited_output resolver configuration three
  obtain ⟨bounds, flushes⟩ := run_of_limited_output resolver configuration one
  let symbol : Symbol := ⟨"main".toList, "a.c:7".toList⟩
  let known : Answer := ⟨⟨['0', 'x', '1'], rfl⟩, .ok (.resolved symbol)⟩
  let other : Answer := ⟨⟨['0', 'x', '2'], rfl⟩, .ok (.resolved symbol)⟩
  let failed : Answer := ⟨⟨['0', 'x', '3'], rfl⟩,
    .error ⟨.ofText "addr2line".toList, .missing⟩⟩
  have answers : resolver.answers configuration 0 (addressesIn (scan [] three).completed) =
      [known, other, failed] := by rfl
  have answer : resolver.answers configuration 0 (addressesIn (scan [] one).completed) =
      [known] := by rfl
  have free : (run .unlimited three).activity.output = first ++ second := by
    have written := output_run resolver configuration three
    dsimp only at written
    rw [map_snd_frames, answers] at written
    exact written.trans (by decide +kernel)
  have alone : (run .unlimited one).activity.output = first := by
    have written := output_run resolver configuration one
    dsimp only at written
    rw [map_snd_frames, answer] at written
    exact written.trans (by decide +kernel)
  have size : (run .unlimited three).activity.output.length = 38 := by
    rw [free]
    decide +kernel
  have short : (run .unlimited one).activity.output.length = 19 := by
    rw [alone]
    decide +kernel
  have good : (run .unlimited one).result = .ok ⟨1, 1, 1, 0⟩ := by
    have ended := @run_of_answered resolver configuration one
    dsimp only at ended
    rw [map_snd_frames, answer, FrameStream.totalLines_ofInput, FrameStream.fault?_ofInput]
      at ended
    exact (ended (by simp [known, Answer.failure?])).2.2
  obtain ⟨-, cut⟩ := limits 19 (some ⟨.denied, rfl⟩)
  obtain ⟨taken, refused, earlier, last, later, split, -, low, high, asked, -⟩ :=
    cut (Nat.lt_of_lt_of_eq (by decide) size.symm)
  obtain ⟨fits, -⟩ := limits 38 none
  obtain ⟨whole, -, same⟩ := fits (Nat.le_of_eq size)
  obtain ⟨enough, -⟩ := bounds 19 none
  obtain ⟨-, -, agreed⟩ := enough (Nat.le_of_eq short)
  have ended := agreed.trans good
  obtain ⟨failing, -⟩ := flushes (some 19) none .denied
  obtain ⟨flushed, shown, -⟩ := failing _ ended
  have count : earlier.length = 1 := by
    rw [map_snd_frames, answers] at split
    rcases earlier with _ | ⟨front, _ | ⟨next, others⟩⟩
    · obtain ⟨rfl, -⟩ := List.cons.inj split
      exact absurd high (by decide +kernel)
    · rfl
    · obtain ⟨rfl, rest⟩ := List.cons.inj split
      obtain ⟨rfl, -⟩ := List.cons.inj rest
      have both : (known.written ++ other.written).length = 38 := by decide +kernel
      simp only [List.flatMap_cons, List.length_append] at low both
      omega
  refine ⟨⟨free, refused, ?_, ?_⟩, ⟨same, whole.trans free⟩, ended, flushed, shown.trans alone⟩
  · rw [taken, free]
    decide +kernel
  · rw [asked, map_snd_frames, count]
    rfl

end Decoding
end Backtrace
