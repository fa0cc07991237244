import Backtrace.Proofs.Decoding.OverLines
import Backtrace.Proofs.Session.Launching
import Backtrace.Proofs.Session.Reporting

/-!
# What a session logs and says

The log of a session is that of its run with a warning before it if the artifact is not a file, and
with the counts after it if the run ends well. A run itself records skipped lines, unresolved
frames and what its resolver records, so these two are the only records above the details of lines
and frames. An error is said with the configuration first, then with its own text and its cause,
each of them once.
-/

namespace Backtrace

namespace Decoding

variable {σ : Type} [Writer σ] {resolver : Resolver} {configuration : Configuration}
  {holds : Record → Prop}

/-- What holds of records of unresolved frames and of those of the resolver holds of all that is
recorded for a frame. -/
theorem forall_records_handle
    (unresolved : ∀ number address, holds (.unresolvedFrame number address resolver.name))
    (own : ∀ asked request, ∀ record ∈ (resolver.answer asked request).records, holds record)
    (asked : Nat) (writer : σ) (number : Nat) (address : Address) :
    ∀ record ∈ (handle resolver configuration asked writer number address).activity.records,
      holds record := by
  have replied := own asked (configuration.request address)
  unfold handle
  dsimp only
  split
  · exact replied
  · intro record inside
    rcases List.mem_append.1 inside with earlier | last
    · exact replied record earlier
    · rw [List.mem_singleton.1 last]
      exact unresolved number address
  · exact replied

/-- What holds of records of skipped lines and of what is recorded for frames holds of all records
of a run over lines. -/
theorem forall_records_overLines (skipped : ∀ number text, holds (.skippedLine number text))
    (unresolved : ∀ number address, holds (.unresolvedFrame number address resolver.name))
    (own : ∀ asked request, ∀ record ∈ (resolver.answer asked request).records, holds record)
    (fault : Option FinalFault) (asked : Nat) (writer : σ) (number : Nat) (lines : List Bytes) :
    ∀ record ∈ (overLines resolver configuration fault asked writer number
      lines).activity.records, holds record := by
  induction lines generalizing asked writer number with
  | nil => cases fault <;> exact List.forall_mem_nil _
  | cons line later ih =>
    cases found : Frame.address? (Utf8.decodeLossy line) with
    | none =>
      rw [overLines_cons_of_none found]
      exact List.forall_mem_cons.2 ⟨skipped _ _, ih asked writer (number + 1)⟩
    | some address =>
      have handled : ∀ record ∈ (handle resolver configuration asked writer (number + 1)
          address).activity.records, holds record :=
        forall_records_handle unresolved own asked writer (number + 1) address
      rw [overLines_cons_of_some found]
      cases outcome : (handle resolver configuration asked writer (number + 1) address).outcome with
      | error error =>
        rw [Handling.proceed_of_error outcome]
        exact handled
      | ok counts =>
        rw [Handling.proceed_of_ok outcome, Run.records_following]
        exact List.forall_mem_append.2 ⟨handled, ih (asked + 1) _ (number + 1)⟩

/-- What holds of records of skipped lines, of unresolved frames and of those of the resolver
holds of all records of a run. -/
theorem forall_records_run (skipped : ∀ number text, holds (.skippedLine number text))
    (unresolved : ∀ number address, holds (.unresolvedFrame number address resolver.name))
    (own : ∀ asked request, ∀ record ∈ (resolver.answer asked request).records, holds record)
    (writer : σ) (input : List ReadEvent) :
    ∀ record ∈ (run resolver configuration writer input).activity.records, holds record := by
  rw [run_eq_overLines]
  exact forall_records_overLines skipped unresolved own _ 0 writer 0 _

end Decoding

/-- A record as it is logged: its level and its text. -/
def Record.logged (record : Record) : Text × Text := (record.level.name, record.message)

/-- The record of a run that ended well. -/
def Record.ofResult (result : Except DecodeError Summary) : List Record :=
  match result with
  | .error _ => []
  | .ok summary => [.finished summary]

/-- Records that are all of one level are the records of that level. -/
theorem Record.filter_level_eq_self {records : List Record} {level : Level}
    (all : ∀ record ∈ records, record.level = level) : records.filter (·.level = level) = records :=
  List.filter_eq_self.2 fun record inside => decide_eq_true (all record inside)

/-- Records that are all of other levels hold none of a level. -/
theorem Record.filter_level_eq_nil {records : List Record} {level : Level}
    (others : ∀ record ∈ records, record.level ≠ level) : records.filter (·.level = level) = [] :=
  List.filter_eq_nil_iff.2 fun record inside => by simpa using others record inside

/-- A fault and the errors behind it, in words. -/
def Fault.told (fault : Fault) : Text := (": ".toList).intercalate fault.chain

/-- An error of decoding with its cause, in words. -/
def DecodeError.told : DecodeError → Text
  | read fault => "failed to read trace input: ".toList ++ fault.told
  | write fault => "failed to write decoded trace: ".toList ++ fault.told
  | launch failure =>
    "failed to launch resolver ".toList ++ failure.program.display ++ ": ".toList ++
      failure.cause.told

namespace Session

variable {σ : Type} [Writer σ] {resolver : Resolver} {world : World}
  {configuration : Configuration} {writer : σ} {input : List ReadEvent}

/-- The log is that of the run, after a warning that may be given and before the counts of a run
that ended well. -/
theorem records_decodeWith :
    (decodeWith resolver world configuration writer input).activity.records =
      warnings world configuration ++
        (Decoding.run resolver configuration writer input).activity.records ++
        Record.ofResult (Decoding.run resolver configuration writer input).result := by
  unfold decodeWith
  dsimp only
  split
  · rename_i failed
    rw [failed]
    exact (List.append_nil _).symm
  · rename_i ended
    rw [ended]
    rfl

/-- A session ends well with exactly the counts of a run that does. -/
theorem result_decodeWith_eq_ok_iff {summary : Summary} :
    (decodeWith resolver world configuration writer input).result = .ok summary ↔
      (Decoding.run resolver configuration writer input).result = .ok summary := by
  rw [result_decodeWith]
  cases (Decoding.run resolver configuration writer input).result <;> simp [Except.mapError]

/-- A session fails exactly with the error of a run that does, under its configuration. -/
theorem result_decodeWith_eq_error_iff {error : SessionError} :
    (decodeWith resolver world configuration writer input).result = .error error ↔
      ∃ failure, (Decoding.run resolver configuration writer input).result = .error failure ∧
        error = .decoding configuration failure := by
  rw [result_decodeWith]
  cases (Decoding.run resolver configuration writer input).result <;>
    simp [Except.mapError, eq_comm]

/-- An error of decoding is said with the configuration before it, its own text once, and its
cause. -/
theorem message_decoding (used : Configuration) (failure : DecodeError) :
    (SessionError.decoding used failure).message =
      "Failed to decode trace against ".toList ++ used.artifact.display ++ " with ".toList ++
        used.resolver.display ++ ": ".toList ++ failure.told := by
  have joined : ∀ first second third : Text, ∀ rest,
      (": ".toList).intercalate (first :: second :: third :: rest) =
        first ++ ": ".toList ++
          (second ++ ": ".toList ++ (": ".toList).intercalate (third :: rest)) := by
    intro first second third rest
    simp [List.intercalate]
  have chained : failure.message ++ ": ".toList ++ failure.cause.told = failure.told := by
    cases failure with
    | read fault => rfl
    | write fault => rfl
    | launch failure => rfl
  rw [← chained, SessionError.message]
  exact joined _ _ _ _

/-- The only record before those of a run is a warning. -/
theorem level_of_mem_warnings {record : Record} (warned : record ∈ warnings world configuration) :
    record.level = .warning := by
  unfold warnings at warned
  split at warned
  · exact absurd warned List.not_mem_nil
  · rw [List.mem_singleton.1 warned]
    rfl

/-- The only record after those of a run is a notice. -/
theorem level_of_mem_ofResult {result : Except DecodeError Summary} {record : Record}
    (counted : record ∈ Record.ofResult result) : record.level = .info := by
  cases result with
  | error error => exact absurd counted List.not_mem_nil
  | ok summary =>
    rw [List.mem_singleton.1 counted]
    rfl

section Detailed

variable (detailed : ∀ asked request, ∀ record ∈ (resolver.answer asked request).records,
  record.level = .trace ∨ record.level = .debug)
include detailed

/-- If the resolver itself records details only, then so does a run. -/
theorem level_of_mem_run : ∀ record ∈ (Decoding.run resolver configuration writer
    input).activity.records, record.level = .trace ∨ record.level = .debug := by
  apply Decoding.forall_records_run
  · exact fun number text => .inl rfl
  · exact fun number address => .inr rfl
  · exact detailed

/-- If the resolver itself records details only, then the only warning is the one about the
artifact. -/
theorem filter_warning_decodeWith :
    (decodeWith resolver world configuration writer input).activity.records.filter
      (·.level = .warning) = warnings world configuration := by
  rw [records_decodeWith, List.filter_append, List.filter_append,
    Record.filter_level_eq_self fun record => level_of_mem_warnings,
    Record.filter_level_eq_nil fun record inside => ?run,
    Record.filter_level_eq_nil fun record counted => ?counts, List.append_nil, List.append_nil]
  case run => rcases level_of_mem_run detailed record inside with level | level <;> simp [level]
  case counts => simp [level_of_mem_ofResult counted]

/-- If the resolver itself records details only, then the only notice is the one of the counts. -/
theorem filter_info_decodeWith :
    (decodeWith resolver world configuration writer input).activity.records.filter
      (·.level = .info) =
        Record.ofResult (Decoding.run resolver configuration writer input).result := by
  rw [records_decodeWith, List.filter_append, List.filter_append,
    Record.filter_level_eq_self fun record => level_of_mem_ofResult,
    Record.filter_level_eq_nil fun record warned => ?warnings,
    Record.filter_level_eq_nil fun record inside => ?run, List.nil_append, List.nil_append]
  case warnings => simp [level_of_mem_warnings warned]
  case run => rcases level_of_mem_run detailed record inside with level | level <;> simp [level]

end Detailed

/-- The texts with which a session fails are those of the errors of its run, each after what was
being done. -/
theorem failed_decodeWith_iff {text : Text} :
    (∃ error, (decodeWith resolver world configuration writer input).result = .error error ∧
      error.message = text) ↔
    ∃ failure, (Decoding.run resolver configuration writer input).result = .error failure ∧
      text = "Failed to decode trace against ".toList ++ configuration.artifact.display ++
        " with ".toList ++ configuration.resolver.display ++ ": ".toList ++ failure.told := by
  constructor
  · rintro ⟨error, failed, rfl⟩
    obtain ⟨failure, stopped, rfl⟩ := result_decodeWith_eq_error_iff.1 failed
    exact ⟨failure, stopped, message_decoding configuration failure⟩
  · rintro ⟨failure, stopped, rfl⟩
    exact ⟨_, result_decodeWith_of_error stopped, message_decoding configuration failure⟩

/-- The log in words. -/
theorem logged_decodeWith :
    (decodeWith resolver world configuration writer input).activity.records.map Record.logged =
      (if world.isFile configuration.artifact then [] else
        [("WARN".toList, "artifact ".toList ++ configuration.artifact.display ++
          " does not exist; frames will not resolve".toList)]) ++
      (Decoding.run resolver configuration writer input).activity.records.map Record.logged ++
      match (Decoding.run resolver configuration writer input).result with
      | .error _ => []
      | .ok ⟨lines, addresses, resolved, unresolved⟩ =>
        [("INFO".toList, Nat.toDigits 10 lines ++ " lines, ".toList ++
          Nat.toDigits 10 addresses ++ " frames, ".toList ++ Nat.toDigits 10 resolved ++
          " resolved, ".toList ++ Nat.toDigits 10 unresolved ++ " unresolved".toList)] := by
  rw [records_decodeWith, List.map_append, List.map_append, warnings]
  congr 1
  · split <;> rfl
  · cases (Decoding.run resolver configuration writer input).result <;> rfl

/-- A session with the program that its configuration names depends on the programs of a world
alone, but for what it logs. -/
theorem decode_of_same_programs {other : World} (refused : other.refusal? = world.refusal?)
    (replied : other.reply = world.reply) :
    let session := decode world configuration writer input
    let elsewhere := decode other configuration writer input
    elsewhere.result = session.result ∧
      elsewhere.activity.unlogged = session.activity.unlogged := by
  intro session elsewhere
  have started : other.start = world.start := by
    funext asked invocation
    simp only [World.start, World.obstacle?, refused, replied]
  have asked : Resolver.ask other = Resolver.ask world := by
    funext count request
    simp only [Resolver.ask, started]
  have moved : elsewhere = decodeWith (.external world) other configuration writer input :=
    congrArg (fun answer => decodeWith { Resolver.external world with answer := answer }
      other configuration writer input) asked
  rw [moved]
  exact ⟨(result_decodeWith ..).trans (result_decodeWith ..).symm,
    (unlogged_decodeWith ..).trans (unlogged_decodeWith ..).symm⟩

/-- A session with any resolver and any writer does what its run does and adds reports only: a
warning before the log of the run if the artifact is not a file, the counts after it if the run
ends well, and the circumstances before the text of an error. -/
theorem decodeWith_adds_reports {σ : Type} [Writer σ] (resolver : Resolver) (world : World)
    (configuration : Configuration) (writer : σ) (input : List ReadEvent) :
    let run := Decoding.run resolver configuration writer input
    let session := decodeWith resolver world configuration writer input
    session.activity.output = run.activity.output ∧
    session.activity.requests = run.activity.requests ∧
    session.activity.invocations = run.activity.invocations ∧
    session.writer = run.writer ∧
    (∀ summary, session.result = .ok summary ↔ run.result = .ok summary) ∧
    (∀ text, (∃ error, session.result = .error error ∧ error.message = text) ↔
      ∃ failure, run.result = .error failure ∧
        text = "Failed to decode trace against ".toList ++ configuration.artifact.display ++
          " with ".toList ++ configuration.resolver.display ++ ": ".toList ++ failure.told) ∧
    session.activity.records.map Record.logged =
      (if world.isFile configuration.artifact then [] else
        [("WARN".toList, "artifact ".toList ++ configuration.artifact.display ++
          " does not exist; frames will not resolve".toList)]) ++
      run.activity.records.map Record.logged ++
      (match run.result with
      | .error _ => []
      | .ok ⟨lines, addresses, resolved, unresolved⟩ =>
        [("INFO".toList, Nat.toDigits 10 lines ++ " lines, ".toList ++
          Nat.toDigits 10 addresses ++ " frames, ".toList ++ Nat.toDigits 10 resolved ++
          " resolved, ".toList ++ Nat.toDigits 10 unresolved ++ " unresolved".toList)]) ∧
    ((∀ asked request, ∀ record ∈ (resolver.answer asked request).records,
        record.level = .trace ∨ record.level = .debug) →
      session.activity.records.filter (·.level = .warning) = warnings world configuration ∧
      session.activity.records.filter (·.level = .info) = Record.ofResult run.result) ∧
    ∀ other : World,
      let elsewhere := decodeWith resolver other configuration writer input
      elsewhere.result = session.result ∧
      elsewhere.activity.output = session.activity.output ∧
      elsewhere.activity.requests = session.activity.requests ∧
      elsewhere.activity.invocations = session.activity.invocations := by
  intro run session
  refine ⟨output_decodeWith .., requests_decodeWith .., invocations_decodeWith ..,
    writer_decodeWith .., fun summary => result_decodeWith_eq_ok_iff,
    fun text => failed_decodeWith_iff, logged_decodeWith, ?_, ?_⟩
  · intro detailed
    exact ⟨filter_warning_decodeWith detailed, filter_info_decodeWith detailed⟩
  · intro other elsewhere
    have result : elsewhere.result = session.result :=
      (result_decodeWith ..).trans (result_decodeWith ..).symm
    have output : elsewhere.activity.output = session.activity.output :=
      (output_decodeWith ..).trans (output_decodeWith ..).symm
    have requests : elsewhere.activity.requests = session.activity.requests :=
      (requests_decodeWith ..).trans (requests_decodeWith ..).symm
    have invocations : elsewhere.activity.invocations = session.activity.invocations :=
      (invocations_decodeWith ..).trans (invocations_decodeWith ..).symm
    exact ⟨result, output, requests, invocations⟩

/-- A resolver that is missing at the second of two frames, in a world without the artifact and in
one with it, and a run that ends before that frame. -/
theorem decodeWith_adds_reports_midway :
    let built : World := (FileTree.ofListing (.ofText "/work".toList)
      [(.ofText "kboot.elf".toList, .file [])]).world
    let resolver : Resolver := ⟨"table".toList, fun asked _ => ⟨if asked = 0 then
        .ok (.resolved ⟨"main".toList, "a.c:7".toList⟩)
      else .error ⟨.ofText "x/addr2line".toList, .denied⟩, [], []⟩⟩
    let input : List ReadEvent := [.bytes (Utf8.encode " 0x1\nnoise\n 0x2".toList)]
    let shorter : List ReadEvent := [.bytes (Utf8.encode " 0x1\nnoise".toList)]
    let session := fun world => decodeWith resolver world smallConfiguration Sink.unlimited
    (∀ asked request, ∀ record ∈ (resolver.answer asked request).records,
      record.level = .trace ∨ record.level = .debug) ∧
    (session smallWorld input).activity.output = Utf8.encode "0x1 - main @ a.c:7\n".toList ∧
    (session smallWorld input).activity.records.map Record.logged =
      [("WARN".toList, "artifact kboot.elf does not exist; frames will not resolve".toList),
        ("TRACE".toList, "skipping line 2: \"noise\"".toList)] ∧
    (∃ error, (session smallWorld input).result = .error error ∧
      error.message = ("Failed to decode trace against kboot.elf with addr2line: failed to " ++
        "launch resolver x/addr2line: Permission denied (os error 13)").toList) ∧
    (session built input).result = (session smallWorld input).result ∧
    (session built shorter).result = .ok ⟨2, 1, 1, 0⟩ ∧
    (session built shorter).activity.records.map Record.logged =
      [("TRACE".toList, "skipping line 2: \"noise\"".toList),
        ("INFO".toList, "2 lines, 1 frames, 1 resolved, 0 unresolved".toList)] ∧
    (session built shorter).activity.records.filter (·.level = .info) =
      [.finished ⟨2, 1, 1, 0⟩] := by
  intro built resolver input shorter session
  have detailed : ∀ asked request, ∀ record ∈ (resolver.answer asked request).records,
      record.level = .trace ∨ record.level = .debug := fun _ _ => List.forall_mem_nil _
  let first : Address := ⟨['0', 'x', '1'], rfl⟩
  let second : Address := ⟨['0', 'x', '2'], rfl⟩
  have lines : (Trace.LineMachine.scan [] input).completed =
      [Utf8.encode " 0x1\n".toList, Utf8.encode "noise\n".toList, Utf8.encode " 0x2".toList] := by
    decide +kernel
  have fewer : (Trace.LineMachine.scan [] shorter).completed =
      [Utf8.encode " 0x1\n".toList, Utf8.encode "noise".toList] := by decide +kernel
  have failed : Decoding.run resolver smallConfiguration Sink.unlimited input =
      ⟨.error (.launch ⟨.ofText "x/addr2line".toList, .denied⟩),
        ⟨Utf8.encode "0x1 - main @ a.c:7\n".toList,
          [first, second].map smallConfiguration.request, [], [.skippedLine 2 "noise".toList]⟩,
        .unlimited⟩ := by
    rw [Decoding.run_eq_overLines, lines, Decoding.overLines_cons_of_some (by rfl),
      Decoding.handle_unlimited, Handling.proceed_of_ok (by rfl),
      Decoding.overLines_cons_of_none (by rfl), Decoding.overLines_cons_of_some (by rfl),
      Decoding.handle_unlimited, Handling.proceed_of_error (by rfl)]
    rfl
  have ended : Decoding.run resolver smallConfiguration Sink.unlimited shorter =
      ⟨.ok ⟨2, 1, 1, 0⟩, ⟨Utf8.encode "0x1 - main @ a.c:7\n".toList,
        [smallConfiguration.request first], [], [.skippedLine 2 "noise".toList]⟩, .unlimited⟩ := by
    rw [Decoding.run_eq_overLines, fewer, Decoding.overLines_cons_of_some (by rfl),
      Decoding.handle_unlimited, Handling.proceed_of_ok (by rfl),
      Decoding.overLines_cons_of_none (by rfl)]
    rfl
  obtain ⟨output, -, -, -, -, texts, log, -, elsewhere⟩ :=
    decodeWith_adds_reports resolver smallWorld smallConfiguration Sink.unlimited input
  obtain ⟨-, -, -, -, counts, -, logged, levels, -⟩ :=
    decodeWith_adds_reports resolver built smallConfiguration Sink.unlimited shorter
  obtain ⟨same, -, -, -⟩ := elsewhere built
  obtain ⟨-, notices⟩ := levels detailed
  rw [failed] at output log texts
  rw [ended] at notices logged counts
  refine ⟨detailed, output, log.trans (by decide +kernel), (texts _).2 ⟨_, rfl, ?_⟩, same,
    (counts _).2 rfl, logged.trans (by decide +kernel), notices⟩
  rw [String.toList_append]
  decide +kernel

end Session
end Backtrace
