import Backtrace.Proofs.Decoding.Outcome

/-!
# The lines of a run are accounted for

The output of a run holds the resolved frames only. What became of the other lines is in the log:
a line that is no frame is recorded as skipped, and a frame without a known place as unresolved.
Going line by line, each line takes the next number and is entered once, in the log or among the
resolved frames; nothing else is entered, as long as the resolver answers every request and
records nothing itself. The numbers therefore neither repeat nor leave a gap.
-/

namespace Backtrace

namespace Record

/-- The number of a line that is recorded as skipped. -/
def skipped? : Record → Option Nat
  | skippedLine number _ => some number
  | _ => none

/-- The number of a line that is recorded as an unresolved frame. -/
def unresolved? : Record → Option Nat
  | unresolvedFrame number _ _ => some number
  | _ => none

/-- The number of the line that a record is about, if it is about one. -/
def number? (record : Record) : Option Nat := record.skipped?.or record.unresolved?

end Record

namespace Decoding

open Trace LineMachine

/-- The numbers of the frames for which the answers have a known place. -/
def resolvedNumbers (frames : List (Nat × Address)) (answers : List Answer) : List Nat :=
  ((frames.zip answers).filter fun pair => pair.2.isResolved).map fun pair => pair.1.1

/-- A frame with a known place is among the resolved ones. -/
theorem resolvedNumbers_cons_of_resolved {answer : Answer} (known : answer.isResolved = true)
    (number : Nat) (address : Address) (frames : List (Nat × Address)) (answers : List Answer) :
    resolvedNumbers ((number, address) :: frames) (answer :: answers) =
      number :: resolvedNumbers frames answers := by
  simp [resolvedNumbers, known]

/-- A frame without a known place is not. -/
theorem resolvedNumbers_cons_of_not {answer : Answer} (unknown : answer.isResolved = false)
    (frame : Nat × Address) (frames : List (Nat × Address)) (answers : List Answer) :
    resolvedNumbers (frame :: frames) (answer :: answers) = resolvedNumbers frames answers := by
  simp [resolvedNumbers, unknown]

/-- If every frame has an answer, there are as many resolved frames as such answers. -/
theorem length_resolvedNumbers {frames : List (Nat × Address)} {answers : List Answer}
    (paired : answers.length = frames.length) :
    (resolvedNumbers frames answers).length = answers.countP Answer.isResolved := by
  have seconds : (frames.zip answers).map Prod.snd = answers :=
    List.map_snd_zip (Nat.le_of_eq paired)
  have counted : ((frames.zip answers).map Prod.snd).countP Answer.isResolved =
      (frames.zip answers).countP fun pair => pair.2.isResolved := List.countP_map
  rw [resolvedNumbers, List.length_map, ← List.countP_eq_length_filter, ← counted, seconds]

/-- How the records of a run and the numbers of its resolved frames account for consecutive
lines, the first of which has the given number. -/
inductive Accounts (resolver : Text) : Nat → List Bytes → List Record → List Nat → Prop where
  /-- There is no line left. -/
  | done (first : Nat) : Accounts resolver first [] [] []
  /-- The first line is no frame and is recorded as skipped. -/
  | skipped {first : Nat} {line : Bytes} {lines : List Bytes} {records : List Record}
      {numbers : List Nat} (noise : Frame.address? (Utf8.decodeLossy line) = none)
      (later : Accounts resolver (first + 1) lines records numbers) :
      Accounts resolver first (line :: lines)
        (.skippedLine first (Utf8.decodeLossy line).trimEnd :: records) numbers
  /-- The first line is a frame and is recorded as unresolved. -/
  | unresolved {first : Nat} {line : Bytes} {lines : List Bytes} {records : List Record}
      {numbers : List Nat} {address : Address}
      (frame : Frame.address? (Utf8.decodeLossy line) = some address)
      (later : Accounts resolver (first + 1) lines records numbers) :
      Accounts resolver first (line :: lines)
        (.unresolvedFrame first address resolver :: records) numbers
  /-- The first line is a frame that is resolved, and there is no record of it. -/
  | resolved {first : Nat} {line : Bytes} {lines : List Bytes} {records : List Record}
      {numbers : List Nat} {address : Address}
      (frame : Frame.address? (Utf8.decodeLossy line) = some address)
      (later : Accounts resolver (first + 1) lines records numbers) :
      Accounts resolver first (line :: lines) records (first :: numbers)

/-- A record says of one of consecutive lines, the first of which has the given number, what is
true of it: that it is no frame, with its text, or which frame it is. -/
def Tells (resolver : Text) (first : Nat) (lines : List Bytes) (record : Record) : Prop :=
  ∃ number line, first ≤ number ∧ lines[number - first]? = some line ∧
    (record = .skippedLine number (Utf8.decodeLossy line).trimEnd ∧
        Frame.address? (Utf8.decodeLossy line) = none ∨
      ∃ address, record = .unresolvedFrame number address resolver ∧
        Frame.address? (Utf8.decodeLossy line) = some address)

section Tells

variable {resolver : Text} {first : Nat} {line : Bytes} {record : Record}

/-- The record of a first line that is no frame. -/
theorem tells_of_none (noise : Frame.address? (Utf8.decodeLossy line) = none)
    (lines : List Bytes) : Tells resolver first (line :: lines)
      (.skippedLine first (Utf8.decodeLossy line).trimEnd) := by
  refine ⟨first, line, Nat.le_refl first, ?_, .inl ⟨rfl, noise⟩⟩
  rw [Nat.sub_self]
  rfl

/-- The record of a first line that is an unresolved frame. -/
theorem tells_of_some {address : Address}
    (frame : Frame.address? (Utf8.decodeLossy line) = some address) (lines : List Bytes) :
    Tells resolver first (line :: lines) (.unresolvedFrame first address resolver) := by
  refine ⟨first, line, Nat.le_refl first, ?_, .inr ⟨address, rfl, frame⟩⟩
  rw [Nat.sub_self]
  rfl

/-- What is true of a line stays true with one more line before it. -/
theorem Tells.cons {lines : List Bytes} (told : Tells resolver (first + 1) lines record)
    (line : Bytes) : Tells resolver first (line :: lines) record := by
  obtain ⟨number, other, low, here, told⟩ := told
  have place : number - first = number - (first + 1) + 1 := by omega
  refine ⟨number, other, Nat.le_of_succ_le low, ?_, told⟩
  rw [place, List.getElem?_cons_succ]
  exact here

/-- A record is not about a line before the first. -/
theorem Tells.le_number {lines : List Bytes} (told : Tells resolver first lines record)
    {number : Nat} (about : record.number? = some number) : first ≤ number := by
  obtain ⟨place, line, low, -, ⟨rfl, -⟩ | ⟨address, rfl, -⟩⟩ := told
  · rwa [← Option.some.inj about]
  · rwa [← Option.some.inj about]

end Tells

namespace Accounts

variable {resolver : Text} {first : Nat} {lines : List Bytes} {records : List Record}
  {numbers : List Nat}

/-- Every record is about one of the lines, and says of it what is true. -/
theorem tells (account : Accounts resolver first lines records numbers) :
    ∀ record ∈ records, Tells resolver first lines record := by
  induction account with
  | done first => simp
  | skipped noise later ih =>
    intro record inside
    rcases List.mem_cons.1 inside with rfl | inside
    · exact tells_of_none noise _
    · exact (ih record inside).cons _
  | unresolved frame later ih =>
    intro record inside
    rcases List.mem_cons.1 inside with rfl | inside
    · exact tells_of_some frame _
    · exact (ih record inside).cons _
  | resolved frame later ih =>
    intro record inside
    exact (ih record inside).cons _

/-- No record is about a line before the first. -/
theorem le_number (account : Accounts resolver first lines records numbers) :
    ∀ number ∈ records.filterMap Record.number?, first ≤ number := by
  intro number inside
  obtain ⟨record, recorded, about⟩ := List.mem_filterMap.1 inside
  exact (account.tells record recorded).le_number about

/-- The records come in the order of the lines, with one for a line at most. -/
theorem increasing (account : Accounts resolver first lines records numbers) :
    (records.filterMap Record.number?).Pairwise (· < ·) := by
  induction account with
  | done first => exact .nil
  | skipped noise later ih =>
    simp only [List.filterMap_cons, Record.number?, Record.skipped?, Record.unresolved?]
    exact .cons later.le_number ih
  | unresolved frame later ih =>
    simp only [List.filterMap_cons, Record.number?, Record.skipped?, Record.unresolved?]
    exact .cons later.le_number ih
  | resolved frame later ih => exact ih

/-- Every line is in exactly one of three groups, once: it is recorded as skipped, it is recorded
as an unresolved frame, or it is a resolved frame. -/
theorem partition (account : Accounts resolver first lines records numbers) :
    (records.filterMap Record.skipped? ++ records.filterMap Record.unresolved? ++ numbers).Perm
      (List.range' first lines.length) := by
  induction account with
  | done first => exact .nil
  | skipped noise later ih =>
    rw [List.length_cons, List.range'_succ]
    simp only [List.filterMap_cons, Record.skipped?, Record.unresolved?, List.cons_append]
    exact ih.cons _
  | unresolved frame later ih =>
    rw [List.length_cons, List.range'_succ]
    simp only [List.filterMap_cons, Record.skipped?, Record.unresolved?, List.append_assoc,
      List.cons_append] at ih ⊢
    exact List.perm_middle.trans (ih.cons _)
  | resolved frame later ih =>
    rw [List.length_cons, List.range'_succ]
    exact List.perm_middle.trans (ih.cons _)

/-- A line is skipped or is a frame. -/
theorem length_skipped (account : Accounts resolver first lines records numbers) :
    (records.filterMap Record.skipped?).length + (addressesIn lines).length = lines.length := by
  induction account with
  | done first => rfl
  | skipped noise later ih =>
    rw [addressesIn_cons_of_none noise]
    simp only [List.filterMap_cons, Record.skipped?, List.length_cons]
    omega
  | unresolved frame later ih =>
    rw [addressesIn_cons_of_some frame]
    simp only [List.filterMap_cons, Record.skipped?, List.length_cons]
    omega
  | resolved frame later ih =>
    rw [addressesIn_cons_of_some frame, List.length_cons, List.length_cons]
    omega

/-- If the resolved lines are the frames whose answer has a known place, the unresolved ones are
the other frames. -/
theorem length_unresolved (account : Accounts resolver first lines records numbers)
    {answers : List Answer} (asked : answers.length = (addressesIn lines).length)
    (answered : ∀ answer ∈ answers, answer.failure? = none)
    (known : numbers.length = answers.countP Answer.isResolved) :
    (records.filterMap Record.unresolved?).length = answers.countP Answer.isUnresolved := by
  have whole := account.partition.length_eq
  rw [List.length_append, List.length_append, List.length_range'] at whole
  have frames := account.length_skipped
  have both := Answer.length_eq_of_answered answered
  omega

end Accounts

variable {resolver : Resolver} {configuration : Configuration} {asked number : Nat}
  {address : Address} {fault : Option FinalFault} {line : Bytes}

/-- A line that is no frame is recorded before the lines after it. -/
theorem records_cons_of_none (noise : Frame.address? (Utf8.decodeLossy line) = none)
    (later : List Bytes) :
    (overLines resolver configuration fault asked Sink.unlimited number
      (line :: later)).activity.records =
    .skippedLine (number + 1) (Utf8.decodeLossy line).trimEnd ::
      (overLines resolver configuration fault asked Sink.unlimited (number + 1)
        later).activity.records := by
  rw [overLines_cons_of_none noise]
  rfl

/-- The records of an answered frame come before those of the lines after it. -/
theorem records_cons_of_answered (frame : Frame.address? (Utf8.decodeLossy line) = some address)
    {resolution : Resolution}
    (answered : (resolver.answer asked (configuration.request address)).outcome = .ok resolution)
    (later : List Bytes) :
    (overLines resolver configuration fault asked Sink.unlimited number
      (line :: later)).activity.records =
    (handle resolver configuration asked Sink.unlimited (number + 1) address).activity.records ++
      (overLines resolver configuration fault (asked + 1) Sink.unlimited (number + 1)
        later).activity.records := by
  have known : (resolver.answerTo configuration asked address).failure? = none := by
    simp only [Resolver.answerTo, answered, Answer.failure?]
  rw [overLines_cons_of_some frame, Handling.proceed_of_ok (outcome_handle_of_answered known _),
    writer_handle, Run.records_following]

/-- A resolved frame leaves no record. -/
theorem records_cons_of_resolved (frame : Frame.address? (Utf8.decodeLossy line) = some address)
    {symbol : Symbol} (resolved : (resolver.answer asked (configuration.request address)).outcome =
      .ok (.resolved symbol))
    (quiet : (resolver.answer asked (configuration.request address)).records = [])
    (later : List Bytes) :
    (overLines resolver configuration fault asked Sink.unlimited number
      (line :: later)).activity.records =
    (overLines resolver configuration fault (asked + 1) Sink.unlimited (number + 1)
      later).activity.records := by
  rw [records_cons_of_answered frame resolved]
  simp only [handle, resolved, quiet, List.nil_append]

/-- An unresolved frame is recorded under the number of its line. -/
theorem records_cons_of_unresolved (frame : Frame.address? (Utf8.decodeLossy line) = some address)
    (unresolved : (resolver.answer asked (configuration.request address)).outcome =
      .ok .unresolved)
    (quiet : (resolver.answer asked (configuration.request address)).records = [])
    (later : List Bytes) :
    (overLines resolver configuration fault asked Sink.unlimited number
      (line :: later)).activity.records =
    .unresolvedFrame (number + 1) address resolver.name ::
      (overLines resolver configuration fault (asked + 1) Sink.unlimited (number + 1)
        later).activity.records := by
  rw [records_cons_of_answered frame unresolved]
  simp only [handle, unresolved, quiet]
  rfl

/-- A run over lines accounts for them, one by one. -/
theorem accounts_overLines (configuration : Configuration) (fault : Option FinalFault)
    (answering : ∀ asked request, ∃ resolution,
      (resolver.answer asked request).outcome = .ok resolution)
    (quiet : ∀ asked request, (resolver.answer asked request).records = [])
    (asked number : Nat) (lines : List Bytes) :
    Accounts resolver.name (number + 1) lines
      (overLines resolver configuration fault asked Sink.unlimited number lines).activity.records
      (resolvedNumbers (Frame.numbered (number + 1) (lines.map Utf8.decodeLossy))
        (resolver.answers configuration asked (addressesIn lines))) := by
  induction lines generalizing asked number with
  | nil => cases fault <;> exact .done _
  | cons line later ih =>
    rw [List.map_cons]
    cases found : Frame.address? (Utf8.decodeLossy line) with
    | none =>
      rw [records_cons_of_none found, Frame.numbered_cons_of_none found,
        addressesIn_cons_of_none found]
      exact .skipped found (ih asked (number + 1))
    | some address =>
      obtain ⟨resolution, outcome⟩ := answering asked (configuration.request address)
      have given : resolver.answerTo configuration asked address = ⟨address, .ok resolution⟩ := by
        rw [Resolver.answerTo, outcome]
      rw [Frame.numbered_cons_of_some found, addressesIn_cons_of_some found, Resolver.answers_cons,
        given]
      cases resolution with
      | unresolved =>
        rw [records_cons_of_unresolved found outcome (quiet _ _), resolvedNumbers_cons_of_not rfl]
        exact .unresolved found (ih (asked + 1) (number + 1))
      | resolved symbol =>
        rw [records_cons_of_resolved found outcome (quiet _ _),
          resolvedNumbers_cons_of_resolved rfl]
        exact .resolved found (ih (asked + 1) (number + 1))

/-- A run accounts for the lines of its input. -/
theorem accounts_run (configuration : Configuration) (input : List ReadEvent)
    (answering : ∀ asked request, ∃ resolution,
      (resolver.answer asked request).outcome = .ok resolution)
    (quiet : ∀ asked request, (resolver.answer asked request).records = []) :
    let stream := FrameStream.ofInput input
    Accounts resolver.name 1 (scan [] input).completed
      (run resolver configuration Sink.unlimited input).activity.records
      (resolvedNumbers stream.frames
        (resolver.answers configuration 0 (stream.frames.map Prod.snd))) := by
  dsimp only
  rw [map_snd_frames, FrameStream.frames_ofInput, run_eq_overLines]
  exact accounts_overLines configuration _ answering quiet 0 0 _

/-- Every line that a run counts is accounted for exactly once, as skipped, as an unresolved frame
or as a resolved one. The records say what is true of their lines, and come in the order of the
lines. -/
theorem run_accounts_for_lines (resolver : Resolver) (configuration : Configuration)
    (input : List ReadEvent) (sound : (FrameStream.ofInput input).fault? = none)
    (answering : ∀ asked request, ∃ resolution,
      (resolver.answer asked request).outcome = .ok resolution)
    (quiet : ∀ asked request, (resolver.answer asked request).records = []) :
    let stream := FrameStream.ofInput input
    let lines := (scan [] input).completed
    let run := run resolver configuration Sink.unlimited input
    let records := run.activity.records
    let skipped := records.filterMap Record.skipped?
    let unresolved := records.filterMap Record.unresolved?
    let resolved := resolvedNumbers stream.frames
      (resolver.answers configuration 0 (stream.frames.map Prod.snd))
    ∃ summary, run.result = .ok summary ∧
      (∀ record ∈ records, ∃ number line, 1 ≤ number ∧ lines[number - 1]? = some line ∧
        let text := Utf8.decodeLossy line
        (record = .skippedLine number text.trimEnd ∧ record.level = .trace ∧
            record.message = "skipping line ".toList ++ Nat.toDigits 10 number ++ ": ".toList ++
              text.trimEnd.quoted ∧
            Frame.address? text = none ∨
          ∃ address, record = .unresolvedFrame number address resolver.name ∧
            record.level = .debug ∧
            record.message = "line ".toList ++ Nat.toDigits 10 number ++ ": ".toList ++
              address.spelling ++ " did not resolve via ".toList ++ resolver.name ∧
            Frame.address? text = some address)) ∧
      (records.filterMap Record.number?).Pairwise (· < ·) ∧
      (skipped ++ unresolved ++ resolved).Perm (List.range' 1 summary.lines) ∧
      skipped.length + summary.addresses = summary.lines ∧
      unresolved.length = summary.unresolved ∧ resolved.length = summary.resolved := by
  intro stream lines run records skipped unresolved resolved
  have account : Accounts resolver.name 1 lines records resolved :=
    accounts_run configuration input answering quiet
  let answers := resolver.answers configuration 0 (stream.frames.map Prod.snd)
  have answered : ∀ answer ∈ answers, answer.failure? = none :=
    Resolver.failure?_of_answering answering configuration 0 _
  have ended : run.result = .ok (.ofAnswers lines.length answers) := by
    obtain ⟨-, -, result⟩ := run_of_answered resolver configuration answered
    rw [sound, FrameStream.totalLines_ofInput] at result
    exact result
  have asked : answers.length = (addressesIn lines).length := by
    rw [Resolver.length_answers, map_snd_frames]
  have known : resolved.length = answers.countP Answer.isResolved :=
    length_resolvedNumbers (by simp)
  have frames : skipped.length + answers.length = lines.length := by
    rw [asked]
    exact account.length_skipped
  refine ⟨_, ended, ?_, account.increasing, account.partition, frames,
    account.length_unresolved asked answered known, known⟩
  intro record inside
  obtain ⟨number, line, low, here, ⟨rfl, noise⟩ | ⟨address, rfl, frame⟩⟩ :=
    account.tells record inside
  · exact ⟨number, line, low, here, .inl ⟨rfl, rfl, rfl, noise⟩⟩
  · exact ⟨number, line, low, here, .inr ⟨address, rfl, rfl, rfl, frame⟩⟩

/-- An unfinished line that is lost, a frame cut by a repeated read, a line of noise, a frame
without a known place that a pause ends, and one that ends with the input. -/
theorem run_accounts_for_lines_mixed :
    let input : List ReadEvent := [.bytes (Utf8.encode " 0x1".toList), .abandon,
      .bytes (Utf8.encode " 0x".toList), .retry, .bytes (Utf8.encode "A\r\nnoise \t\n 0xB".toList),
      .pause, .bytes (Utf8.encode " 0x7 (0XC)".toList)]
    let resolver : Resolver := ⟨"table".toList, fun asked request =>
      ⟨.ok (if asked = 1 then .unresolved
        else .resolved ⟨request.address.spelling, "a.c:7".toList⟩), [], []⟩⟩
    let configuration : Configuration := ⟨.ofText "kboot.elf".toList, .ofText "addr2line".toList⟩
    let stream := FrameStream.ofInput input
    let run := run resolver configuration Sink.unlimited input
    stream.fault? = none ∧
      (∀ asked request, ∃ resolution, (resolver.answer asked request).outcome = .ok resolution) ∧
      (∀ asked request, (resolver.answer asked request).records = []) ∧
      run.result = .ok ⟨4, 3, 2, 1⟩ ∧
      run.activity.records = [.skippedLine 2 "noise".toList,
        .unresolvedFrame 3 ⟨['0', 'x', 'B'], rfl⟩ "table".toList] ∧
      ([2] ++ [3] ++ resolvedNumbers stream.frames
        (resolver.answers configuration 0 (stream.frames.map Prod.snd))).Perm [1, 2, 3, 4] := by
  intro input resolver configuration stream run
  have sound : stream.fault? = none := by
    rw [FrameStream.fault?_ofInput]
    rfl
  have answering : ∀ asked request, ∃ resolution,
      (resolver.answer asked request).outcome = .ok resolution := fun _ _ => ⟨_, rfl⟩
  have quiet : ∀ asked request, (resolver.answer asked request).records = [] := fun _ _ => rfl
  have lined : run = overLines resolver configuration (scan [] input).fault? 0 Sink.unlimited 0
      (scan [] input).completed := run_eq_overLines input
  have records : run.activity.records = [.skippedLine 2 "noise".toList,
      .unresolvedFrame 3 ⟨['0', 'x', 'B'], rfl⟩ "table".toList] := by
    have lines : (scan [] input).completed = [Utf8.encode " 0xA\r\n".toList,
        Utf8.encode "noise \t\n".toList, Utf8.encode " 0xB".toList,
        Utf8.encode " 0x7 (0XC)".toList] := by decide +kernel
    rw [lined, lines, records_cons_of_resolved (by rfl) (by rfl) (by rfl),
      records_cons_of_none (by rfl), records_cons_of_unresolved (by rfl) (by rfl) (by rfl),
      records_cons_of_resolved (by rfl) (by rfl) (by rfl)]
    rfl
  have result : run.result = .ok ⟨4, 3, 2, 1⟩ := by
    have answered := Resolver.failure?_of_answering answering configuration 0
    obtain ⟨-, -, counted⟩ := @run_of_answered resolver configuration input (answered _)
    rw [sound, FrameStream.totalLines_ofInput, map_snd_frames] at counted
    exact counted
  obtain ⟨summary, ended, -, -, whole, -⟩ :=
    run_accounts_for_lines resolver configuration input sound answering quiet
  obtain rfl : ⟨4, 3, 2, 1⟩ = summary := Except.ok.inj (result.symm.trans ended)
  refine ⟨sound, answering, quiet, result, records, ?_⟩
  change (run.activity.records.filterMap Record.skipped? ++
    run.activity.records.filterMap Record.unresolved? ++ _).Perm _ at whole
  rw [records] at whole
  exact whole

end Decoding
end Backtrace
