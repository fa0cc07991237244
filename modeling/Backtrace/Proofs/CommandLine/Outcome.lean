import Backtrace.CommandLine
import Backtrace.Proofs.Decoding.Kept
import Backtrace.Proofs.Session.Launching

/-!
# The outcome of the program

For arguments that it takes, the program is a session under the configuration that they give. The
session writes to a buffer before standard output, and both hold bytes back; they are passed on
whether it succeeds or fails, so that the outside receives all that the session wrote. The exit
code and standard error say how the session ended. If there is no configuration the outcome is
settled before the input is looked at.
-/

namespace Backtrace

/-- A parser takes a line with some operands exactly if these are what it gives. -/
theorem ArgumentParser.taken?_eq_some_iff {parser : ArgumentParser} {line : List Bytes}
    {arguments : Arguments} :
    parser.taken? line = some arguments ↔ parser line = .ok arguments := by
  unfold taken?
  cases parser line <;> simp [Except.toOption]

namespace CommandLine

/-- A request for help is not what a conventional parser takes. -/
theorem asksForHelp_of_parsed {parser : ArgumentParser} {line : List Bytes} {arguments : Arguments}
    (conventional : parser.Conventional) (parsed : parser line = .ok arguments) :
    Arguments.asksForHelp line = false := by
  match line with
  | [] => rfl
  | [_] => rfl
  | program :: word :: words =>
    refine Bool.eq_false_iff.2 fun asks => ?_
    have flagged : Arguments.isFlag word = true ∧ word ≠ Arguments.endOfFlags := by
      rw [Arguments.asksForHelp, List.contains_iff_mem] at asks
      rcases List.mem_cons.1 asks with rfl | asks
      · decide
      · rw [List.mem_singleton.1 asks]
        decide
    have refused := conventional.flag program words flagged.1 flagged.2
    rw [ArgumentParser.taken?_eq_some_iff.2 parsed] at refused
    simp at refused

/-- For arguments that it takes, the program settles on the configuration that they give, or on
the error that there is none. -/
theorem prepare_of_parsed {parser : ArgumentParser} {line : List Bytes} {arguments : Arguments}
    (conventional : parser.Conventional) (parsed : parser line = .ok arguments) (log : Logger)
    (world : World) :
    prepare parser log line world =
      match configure world arguments with
      | (.error error, records) =>
        .error ⟨failure, [], records.flatMap log ++ Utf8.encode (complaint error), []⟩
      | (.ok configuration, records) => .ok ⟨configuration, records⟩ := by
  have silent := asksForHelp_of_parsed conventional parsed
  rcases configured : configure world arguments with ⟨error | configuration, records⟩
  · simp only [prepare, silent, Bool.false_eq_true, if_false, parsed, configured, exit_empty]
  · simp only [prepare, silent, Bool.false_eq_true, if_false, parsed, configured]

/-- Where the current directory is known, the configuration is looked for there. -/
theorem configure_of_directory {world : World} {root : Path} (located : world.directory = .ok root)
    (arguments : Arguments) : configure world arguments =
      Session.configure world root arguments.artifact arguments.resolver := by
  rw [configure, located]

/-- What the outside receives of a session through a buffer and standard output is what it wrote,
and the session is otherwise the one without them. -/
theorem exists_session (world : World) (configuration : Configuration) (input : List ReadEvent) :
    let plain := Session.decode world configuration Sink.unlimited input
    ∃ after, Session.decode world configuration buffer input =
        ⟨plain.result, plain.activity, after⟩ ∧
      after.close.release.buffer.inner.received = plain.activity.output := by
  intro plain
  obtain ⟨after, decoded, kept⟩ :=
    Session.exists_decodeWith (.external world) world configuration buffer input
  refine ⟨after, decoded, ?_⟩
  calc
    after.close.release.buffer.inner.received = Lossless.contents after.close :=
      after.close.received_release
    _ = Lossless.contents after := after.contents_close
    _ = Lossless.contents buffer ++ plain.activity.output := kept
    _ = plain.activity.output := rfl

/-- Decoding leaves behind what the session does, and says how it ended. -/
theorem decode_eq (log : Logger) (world : World) (prepared : Prepared) (input : List ReadEvent) :
    let session := Session.decode world prepared.configuration Sink.unlimited input
    let logged := (prepared.records ++ session.activity.records).flatMap log
    decode log world prepared input =
      match session.result with
      | .ok _ => ⟨success, session.activity.output, logged, session.activity.invocations⟩
      | .error error => ⟨failure, session.activity.output, logged ++ Utf8.encode (complaint error),
          session.activity.invocations⟩ := by
  obtain ⟨after, decoded, passed⟩ := exists_session world prepared.configuration input
  cases ended : (Session.decode world prepared.configuration Sink.unlimited input).result with
  | ok summary => simp only [decode, decoded, exit, passed, ended]
  | error error => simp only [decode, decoded, exit, passed, ended]

variable {log : Logger} {world : World} {prepared : Prepared} {input : List ReadEvent}

/-- Standard output has the output of the session, whether it succeeds or fails. -/
theorem stdout_decode : (decode log world prepared input).stdout =
    (Session.decode world prepared.configuration Sink.unlimited input).activity.output := by
  rw [decode_eq]
  split <;> rfl

/-- The programs run are those of the session, whether it succeeds or fails. -/
theorem invocations_decode : (decode log world prepared input).invocations =
    (Session.decode world prepared.configuration Sink.unlimited input).activity.invocations := by
  rw [decode_eq]
  split <;> rfl

/-- A session that succeeds gives the exit code of success, and only its records are shown. -/
theorem decode_of_ok (unfiltered : log.Unfiltered) {summary : Summary}
    (ended : (Session.decode world prepared.configuration Sink.unlimited input).result =
      .ok summary) :
    (decode log world prepared input).exit = success ∧
      (decode log world prepared input).stderr = [] := by
  rw [decode_eq, ended]
  exact ⟨rfl, unfiltered.silent _⟩

/-- A session that fails gives the exit code of failure and a complaint. -/
theorem decode_of_error (unfiltered : log.Unfiltered) {error : SessionError}
    (failed : (Session.decode world prepared.configuration Sink.unlimited input).result =
      .error error) :
    (decode log world prepared input).exit = failure ∧
      (decode log world prepared input).stderr = Utf8.encode (complaint error) := by
  rw [decode_eq, failed]
  refine ⟨rfl, ?_⟩
  dsimp only
  rw [unfiltered.silent, List.nil_append]

/-- For arguments that it takes the program is the session that they ask for, which includes what
is written before the session fails. Without a configuration it fails before it reads its input. -/
theorem run_of_parsed {parser : ArgumentParser} {log : Logger} {line : List Bytes}
    {arguments : Arguments} (conventional : parser.Conventional) (unfiltered : log.Unfiltered)
    (parsed : parser line = .ok arguments) (world : World) :
    let shown : SessionError → Bytes := fun error =>
      Utf8.encode ("error: ".toList ++ (": ".toList).intercalate error.chain ++ ['\n'])
    (∀ fault, world.directory = .error fault → ∀ input,
      run parser log line world input = ⟨1, [], shown (.directory fault), []⟩) ∧
    ∀ root, world.directory = .ok root →
      let configured := (Session.configure world root arguments.artifact arguments.resolver).1
      (∀ error, configured = .error error → ∀ input,
        run parser log line world input = ⟨1, [], shown error, []⟩) ∧
      ∀ configuration, configured = .ok configuration → ∀ input,
        let session := Session.decode world configuration Sink.unlimited input
        let answers := (Resolver.external world).answers configuration 0
          ((FrameStream.ofInput input).frames.map Prod.snd)
        let outcome := run parser log line world input
        outcome.stdout = session.activity.output ∧
        outcome.stdout = (answers.takeWhile fun answer =>
          answer.failure?.isNone).flatMap Answer.written ∧
        outcome.invocations = session.activity.invocations ∧
        (outcome.exit = 0 ∧ outcome.stderr = [] ↔ ∃ summary, session.result = .ok summary) ∧
        ∀ error, session.result = .error error →
          outcome.exit = 1 ∧ outcome.stderr = shown error := by
  intro shown
  have prepared := prepare_of_parsed conventional parsed log world
  -- An error of the configuration is shown without the records before it, which are filtered out.
  have settled {error : SessionError} {records : List Record}
      (refused : configure world arguments = (.error error, records)) (input : List ReadEvent) :
      run parser log line world input = ⟨1, [], shown error, []⟩ := by
    rw [refused] at prepared
    dsimp only at prepared
    rw [unfiltered.silent, List.nil_append] at prepared
    exact run_of_prepare_error prepared input
  refine ⟨?_, ?_⟩
  · intro fault lost input
    have refused : configure world arguments = (.error (.directory fault), []) := by
      rw [configure, lost]
    exact settled refused input
  · intro root located configured
    refine ⟨?_, ?_⟩
    · intro error refused input
      exact settled ((configure_of_directory located arguments).trans (Prod.ext refused rfl)) input
    · intro configuration chosen input session answers outcome
      have found : configure world arguments = (.ok configuration,
          (Session.configure world root arguments.artifact arguments.resolver).2) :=
        (configure_of_directory located arguments).trans (Prod.ext chosen rfl)
      rw [found] at prepared
      have same := run_of_prepare_ok prepared input
      change outcome = _ at same
      rw [same]
      refine ⟨stdout_decode, ?_, invocations_decode, ?_, ?_⟩
      · rw [stdout_decode, Session.decode, Session.output_decodeWith]
        exact Decoding.output_run (.external world) configuration input
      · constructor
        · rintro ⟨exit, -⟩
          cases ended : session.result with
          | ok summary => exact ⟨summary, rfl⟩
          | error error =>
            rw [(decode_of_error unfiltered ended).1] at exit
            exact absurd exit (by decide)
        · rintro ⟨summary, ended⟩
          exact decode_of_ok unfiltered ended
      · intro error failed
        exact decode_of_error unfiltered failed

/-- An input that fails after a frame, and a program started where there is no options cache. -/
theorem run_of_parsed_midway :
    let words : List String → List Bytes := List.map (Utf8.encode ·.toList)
    let input : List ReadEvent :=
      [.bytes (Utf8.encode " 0x1\n 0x2".toList), .fault ⟨.denied, rfl⟩]
    let silent : Logger := fun _ => []
    let run := fun line => run Arguments.parse silent (words line) Session.smallWorld input
    let outcome := run ["decode", "kboot.elf"]
    Arguments.parse (words ["decode", "kboot.elf"]) =
        .ok ⟨some (.ofText "kboot.elf".toList), none⟩ ∧
      outcome.exit = 1 ∧ outcome.stdout = Utf8.encode "0x1 - main @ a.c:7\n".toList ∧
      outcome.stderr = Utf8.encode ("error: Failed to decode trace against kboot.elf with " ++
        "addr2line: failed to read trace input: Permission denied (os error 13)\n").toList ∧
      Arguments.parse (words ["decode"]) = .ok ⟨none, none⟩ ∧
      run ["decode"] = ⟨1, [], Utf8.encode
        ("error: Failed to derive configuration from /work (pass <path to kboot.elf> " ++
          "explicitly instead): Failed to read build configuration cache " ++
          "/work/.options.cache: No such file or directory (os error 2)\n").toList, []⟩ := by
  intro words input silent run outcome
  have quiet : silent.Unfiltered := fun _ _ => rfl
  have given : Arguments.parse (words ["decode", "kboot.elf"]) =
      .ok ⟨some (.ofText "kboot.elf".toList), none⟩ := by rfl
  have nothing : Arguments.parse (words ["decode"]) = .ok ⟨none, none⟩ := by rfl
  have addresses : (FrameStream.ofInput input).frames.map Prod.snd = [⟨['0', 'x', '1'], rfl⟩] := by
    rw [Decoding.map_snd_frames]
    rfl
  have answered : ∀ answer ∈ (Resolver.external Session.smallWorld).answers
      Session.smallConfiguration 0 ((FrameStream.ofInput input).frames.map Prod.snd),
      answer.failure? = none := by
    rw [addresses]
    exact Decoding.answered_of_clear (by decide +kernel)
  obtain ⟨-, -, result⟩ := Decoding.run_of_answered _ _ answered
  have failed : (Session.decode Session.smallWorld Session.smallConfiguration Sink.unlimited
      input).result = .error (.decoding Session.smallConfiguration (.read .denied)) := by
    rw [FrameStream.fault?_ofInput] at result
    exact Session.result_decodeWith_of_error result
  obtain ⟨-, decoded⟩ := run_of_parsed Arguments.conventional_parse quiet given Session.smallWorld
  obtain ⟨-, sought⟩ := run_of_parsed Arguments.conventional_parse quiet nothing Session.smallWorld
  obtain ⟨-, decoded⟩ := decoded _ rfl
  obtain ⟨refused, -⟩ := sought _ rfl
  obtain ⟨-, written, -, -, shown⟩ := decoded Session.smallConfiguration rfl input
  obtain ⟨exit, stderr⟩ := shown _ failed
  rw [addresses] at written
  refine ⟨given, exit, written.trans (by decide +kernel), stderr.trans ?_, nothing,
    (refused _ rfl input).trans ?_⟩
  -- The texts are compared by their parts, which the kernel reads faster than the whole.
  · rw [String.toList_append]
    decide +kernel
  · rw [String.toList_append, String.toList_append]
    decide +kernel

end CommandLine
end Backtrace
