import Backtrace.Proofs.CommandLine.Outcome

/-!
# How the words of an invocation are taken

The words after the program's name ask for help, are refused, or give operands. A word that asks
for help does so in the first place only; everywhere else it is a flag before the end of the
flags, and an operand after it. The main statement says which words are which and what the
program does with them. Help and refusal are settled without a look at the world or the input.
-/

namespace Backtrace

namespace Arguments

/-- A word that is an operand where flags are still looked for: the dash alone, or a word whose
first byte is no dash. -/
def IsPlain (word : Bytes) : Prop :=
  word = [dash] ∨ ∃ first rest, word = first :: rest ∧ first ≠ dash

/-- Words before and after the first end of the flags: those before it are plain and those after
it are not empty. Without an end of the flags all words stand before it. -/
def Splits (words before after : List Bytes) : Prop :=
  (words = before ∧ after = [] ∨ words = before ++ endOfFlags :: after) ∧
    (∀ word ∈ before, IsPlain word) ∧ ∀ word ∈ after, word ≠ []

/-- The operands that words give, at most two of them: the words themselves, less the first end
of the flags. -/
def Gives (words operands : List Bytes) : Prop :=
  ∃ before after, Splits words before after ∧ operands = before ++ after ∧ operands.length ≤ 2

/-- A word is refused before the end of the flags exactly if it is not plain. -/
theorem isPlain_iff {word : Bytes} : IsPlain word ↔ (word.isEmpty || isFlag word) = false := by
  cases word with
  | nil => simp [IsPlain]
  | cons first rest =>
    by_cases dashed : first = dash
    · subst dashed
      simp [IsPlain, isFlag]
    · have plain : IsPlain (first :: rest) := .inr ⟨first, rest, rfl, dashed⟩
      simp [plain, isFlag, dashed]

/-- The arguments that operands make, in their order: the artifact and then the resolver. -/
def ofOperands? : List Bytes → Option Arguments
  | [] => some .none
  | word :: operands => (ofOperands? operands).bind (after? word)

/-- There are arguments for at most two operands. -/
theorem ofOperands?_eq_some_iff {operands : List Bytes} {arguments : Arguments} :
    ofOperands? operands = some arguments ↔ operands.length ≤ 2 ∧
      arguments = ⟨operands[0]?.map Path.mk, operands[1]?.map Path.mk⟩ := by
  match operands with
  | [] => simp [ofOperands?, Arguments.none, eq_comm]
  | [artifact] => simp [ofOperands?, Arguments.none, after?, eq_comm]
  | [artifact, resolver] => simp [ofOperands?, Arguments.none, after?, eq_comm]
  | first :: second :: third :: others =>
    -- Whatever the operands after the third give, there is no place for the first.
    have crowded : ofOperands? (first :: second :: third :: others) = Option.none := by
      simp only [ofOperands?]
      rcases ofOperands? others with _ | ⟨_ | artifact, _ | resolver⟩ <;> simp [after?]
    simp [crowded]

/-- After the end of the flags words that are not empty are operands. -/
theorem ofPlainWords?_of_full {words : List Bytes} (full : ∀ word ∈ words, word ≠ []) :
    ofPlainWords? words = ofOperands? words := by
  induction words with
  | nil => rfl
  | cons word later ih =>
    have first : word.isEmpty = false := by simpa using full word List.mem_cons_self
    have others := ih fun other inside => full other (List.mem_cons_of_mem _ inside)
    rw [ofPlainWords?, first, if_neg Bool.false_ne_true, others, ofOperands?]

/-- After the end of the flags no word that gives operands is empty. -/
theorem full_of_ofPlainWords? {words : List Bytes} {arguments : Arguments}
    (taken : ofPlainWords? words = some arguments) : ∀ word ∈ words, word ≠ [] := by
  induction words generalizing arguments with
  | nil => simp
  | cons word later ih =>
    unfold ofPlainWords? at taken
    split at taken
    · simp at taken
    · rename_i full
      obtain ⟨rest, given, -⟩ := Option.bind_eq_some_iff.1 taken
      intro other inside
      rcases List.mem_cons.1 inside with rfl | inside
      · simpa using full
      · exact ih given other inside

/-- A plain word is an operand before the others. -/
theorem ofWords?_cons_of_isPlain {word : Bytes} (plain : IsPlain word) (words : List Bytes) :
    ofWords? (word :: words) = (ofWords? words).bind (after? word) := by
  obtain ⟨full, unflagged⟩ := Bool.or_eq_false_iff.1 (isPlain_iff.1 plain)
  exact ofWords?_cons_of_plain (by simpa using full) unflagged words

/-- Plain words come to the same before words that give the same. -/
theorem ofWords?_append_of_isPlain {before words operands : List Bytes}
    (plain : ∀ word ∈ before, IsPlain word) (same : ofWords? words = ofOperands? operands) :
    ofWords? (before ++ words) = ofOperands? (before ++ operands) := by
  induction before with
  | nil => exact same
  | cons word later ih =>
    have others := ih fun other inside => plain other (List.mem_cons_of_mem _ inside)
    rw [List.cons_append, List.cons_append,
      ofWords?_cons_of_isPlain (plain word List.mem_cons_self), others, ofOperands?]

/-- Words that split give the words on both sides as operands. -/
theorem ofWords?_of_splits {words before after : List Bytes} (split : Splits words before after) :
    ofWords? words = ofOperands? (before ++ after) := by
  obtain ⟨⟨rfl, rfl⟩ | rfl, plain, full⟩ := split
  · have alone := ofWords?_append_of_isPlain plain (show ofWords? [] = ofOperands? [] from rfl)
    rwa [List.append_nil] at alone ⊢
  · refine ofWords?_append_of_isPlain plain ?_
    rw [ofWords?_cons_endOfFlags, ofPlainWords?_of_full full]

/-- Words that give operands split. -/
theorem exists_splits_of_ofWords? {words : List Bytes} {arguments : Arguments}
    (taken : ofWords? words = some arguments) : ∃ before after, Splits words before after := by
  fun_induction ofWords? words generalizing arguments with
  | case1 => exact ⟨[], [], .inl ⟨rfl, rfl⟩, by simp, by simp⟩
  | case2 words =>
    -- The end of the flags: all words after it are operands.
    exact ⟨[], words, .inr rfl, by simp, full_of_ofPlainWords? taken⟩
  | case3 => simp at taken
  | case4 word words other unrefused ih =>
    obtain ⟨rest, given, -⟩ := Option.bind_eq_some_iff.1 taken
    obtain ⟨before, after, shape, plain, full⟩ := ih given
    have first : IsPlain word := isPlain_iff.2 (Bool.eq_false_iff.2 unrefused)
    refine ⟨word :: before, after, ?_, List.forall_mem_cons.2 ⟨first, plain⟩, full⟩
    rcases shape with ⟨rfl, nothing⟩ | rfl
    · exact .inl ⟨rfl, nothing⟩
    · exact .inr rfl

/-- The arguments are the artifact and the resolver that the operands of the words name. -/
theorem ofWords?_eq_some_iff {words : List Bytes} {arguments : Arguments} :
    ofWords? words = some arguments ↔
      ∃ operands, Gives words operands ∧
        arguments = ⟨operands[0]?.map Path.mk, operands[1]?.map Path.mk⟩ := by
  constructor
  · intro taken
    obtain ⟨before, after, split⟩ := exists_splits_of_ofWords? taken
    rw [ofWords?_of_splits split] at taken
    obtain ⟨few, rfl⟩ := ofOperands?_eq_some_iff.1 taken
    exact ⟨before ++ after, ⟨before, after, split, rfl, few⟩, rfl⟩
  · rintro ⟨_, ⟨before, after, split, rfl, few⟩, rfl⟩
    rw [ofWords?_of_splits split]
    exact ofOperands?_eq_some_iff.2 ⟨few, rfl⟩

/-- Words give operands exactly if the plainest parser takes them. -/
theorem exists_gives_iff {words : List Bytes} :
    (∃ operands, Gives words operands) ↔ (ofWords? words).isSome := by
  rw [Option.isSome_iff_exists]
  constructor
  · rintro ⟨operands, gives⟩
    exact ⟨_, ofWords?_eq_some_iff.2 ⟨operands, gives, rfl⟩⟩
  · rintro ⟨arguments, taken⟩
    obtain ⟨operands, gives, -⟩ := ofWords?_eq_some_iff.1 taken
    exact ⟨operands, gives⟩

/-- Help is asked for by the first word only, and only in one of its two spellings. -/
theorem asksForHelp_iff {line : List Bytes} : asksForHelp line = true ↔
    line.tail.head? = some (Utf8.encode "-h".toList) ∨
      line.tail.head? = some (Utf8.encode "--help".toList) := by
  match line with
  | [] => simp [asksForHelp]
  | [_] => simp [asksForHelp]
  | program :: word :: words =>
    rw [asksForHelp, List.contains_iff_mem, helpWords, List.mem_cons, List.mem_singleton]
    simp only [List.tail_cons, List.head?_cons, Option.some.injEq]

end Arguments

namespace CommandLine

variable {parser : ArgumentParser} {line : List Bytes}

/-- What is printed is on standard output when the program ends. -/
theorem received_of_printed (bytes : Bytes) :
    (Writer.writeAll StandardOutput.empty bytes).writer.release.buffer.inner.received = bytes := by
  obtain ⟨after, written, kept⟩ :=
    Lossless.exists_writeOut .shortWrite StandardOutput.empty bytes
  rw [Writer.writeAll, written]
  exact after.received_release.trans kept

/-- A request for help is settled by the program's name. -/
theorem run_of_asksForHelp (asks : Arguments.asksForHelp line = true) (log : Logger)
    (world : World) (input : List ReadEvent) :
    run parser log line world input =
      ⟨failure, Utf8.encode (Usage.help (Usage.programName line)), [], []⟩ := by
  apply run_of_prepare_error
  simp only [prepare, asks, if_true, exit, received_of_printed]

/-- Words that are refused are settled by the program's name and the reason of the refusal. -/
theorem run_of_refused (silent : Arguments.asksForHelp line = false) {reason : Text}
    (refused : parser line = .error reason) (log : Logger) (world : World)
    (input : List ReadEvent) :
    run parser log line world input =
      ⟨failure, [], log (.argumentsRefused reason) ++
        Utf8.encode (Usage.refusal (Usage.programName line)), []⟩ := by
  apply run_of_prepare_error
  simp only [prepare, silent, refused, Bool.false_eq_true, if_false, exit_empty]

/-- An invocation asks for help exactly if its first word is one of the two that do. Any other is
taken exactly if its words give operands, of which the first is the artifact and the second the
resolver, byte for byte. Help and refusal are the same in every world and on every input. -/
theorem run_of_words (conventional : parser.Conventional) (log : Logger) (program : Bytes)
    (words : List Bytes) :
    let line := program :: words
    let name := Usage.programName line
    let help := words.head? = some (Utf8.encode "-h".toList) ∨
      words.head? = some (Utf8.encode "--help".toList)
    let refusal := Utf8.encode ("Invalid arguments\n".toList ++ Usage.synopsis name ++ "\n".toList)
    (Arguments.asksForHelp line = true ↔ help) ∧
    (help → ∀ world input,
      run parser log line world input = ⟨1, Utf8.encode (Usage.help name), [], []⟩) ∧
    (¬ help →
      (∀ arguments, parser line = .ok arguments ↔
        ∃ operands, Arguments.Gives words operands ∧
          arguments = ⟨operands[0]?.map Path.mk, operands[1]?.map Path.mk⟩) ∧
      ((∀ operands, ¬ Arguments.Gives words operands) → ∃ reason, parser line = .error reason ∧
        (∀ world input, run parser log line world input =
          ⟨1, [], log (.argumentsRefused reason) ++ refusal, []⟩) ∧
        (log.Unfiltered → ∀ world input,
          run parser log line world input = ⟨1, [], refusal, []⟩)) ∧
      ∀ operands, Arguments.Gives words operands → ∀ world input,
        run parser log line world input =
          match configure world ⟨operands[0]?.map Path.mk, operands[1]?.map Path.mk⟩ with
          | (.error error, records) =>
            ⟨1, [], records.flatMap log ++ Utf8.encode (complaint error), []⟩
          | (.ok configuration, records) => decode log world ⟨configuration, records⟩ input) := by
  intro line name help refusal
  have asking : Arguments.asksForHelp line = true ↔ help := Arguments.asksForHelp_iff
  have taking {arguments : Arguments} : parser line = .ok arguments ↔
      ∃ operands, Arguments.Gives words operands ∧
        arguments = ⟨operands[0]?.map Path.mk, operands[1]?.map Path.mk⟩ := by
    rw [← ArgumentParser.taken?_eq_some_iff, ArgumentParser.taken?_cons conventional,
      Arguments.ofWords?_eq_some_iff]
  refine ⟨asking, ?_, ?_⟩
  · intro asked world input
    exact run_of_asksForHelp (asking.2 asked) log world input
  · intro other
    have silent : Arguments.asksForHelp line = false :=
      Bool.eq_false_iff.2 fun asked => other (asking.1 asked)
    refine ⟨fun arguments => taking, ?_, ?_⟩
    · intro none
      cases parsed : parser line with
      | ok arguments =>
        obtain ⟨operands, gives, -⟩ := taking.1 parsed
        exact absurd gives (none operands)
      | error reason =>
        refine ⟨reason, rfl, run_of_refused silent parsed log, ?_⟩
        intro unfiltered world input
        have unsaid := unfiltered _ (Record.argumentsRefused reason).level_ne_error
        exact (run_of_refused silent parsed log world input).trans (by rw [unsaid]; rfl)
    · intro operands gives world input
      rw [run, prepare_of_parsed conventional (taking.2 ⟨operands, gives, rfl⟩)]
      rcases configure world _ with ⟨error | configuration, records⟩ <;> rfl

/-- The word for help in the first place, in a later one, and after the end of the flags. -/
theorem run_of_words_places :
    let words : List String → List Bytes := List.map (Utf8.encode ·.toList)
    let flagged := words ["kboot.elf", "--help"]
    let ended := words ["-", "--", "-h"]
    let world := Session.smallWorld
    let input : List ReadEvent := [.bytes (Utf8.encode " 0x1\n".toList)]
    let silent : Logger := fun _ => []
    let run := fun given =>
      run Arguments.parse silent (Utf8.encode "bin/decode".toList :: given) world input
    run (words ["-h", "kboot.elf", "--json"]) =
        ⟨1, Utf8.encode (Usage.help "decode".toList), [], []⟩ ∧
      (∀ operands, ¬ Arguments.Gives flagged operands) ∧
      run flagged = ⟨1, [], Utf8.encode ("Invalid arguments\n".toList ++
        Usage.synopsis "decode".toList ++ "\n".toList), []⟩ ∧
      Arguments.Gives ended (words ["-", "-h"]) ∧
      run ended = decode silent world ⟨⟨.ofText "-".toList, .ofText "-h".toList⟩, []⟩ input := by
  intro words flagged ended world input silent run
  have quiet : silent.Unfiltered := fun _ _ => rfl
  let program := Utf8.encode "bin/decode".toList
  have named (given : List Bytes) : Usage.programName (program :: given) = "decode".toList := by rfl
  obtain ⟨-, helped, -⟩ := run_of_words Arguments.conventional_parse silent program
    (words ["-h", "kboot.elf", "--json"])
  obtain ⟨-, -, sorted⟩ := run_of_words Arguments.conventional_parse silent program flagged
  obtain ⟨-, -, taken⟩ := run_of_words Arguments.conventional_parse silent program ended
  have none : ∀ operands, ¬ Arguments.Gives flagged operands := by
    intro operands gives
    exact absurd (Arguments.exists_gives_iff.1 ⟨operands, gives⟩) (by decide)
  have plain : ∀ word ∈ words ["-"], Arguments.IsPlain word := fun word inside =>
    .inl ((List.mem_singleton.1 inside).trans (by decide))
  have gives : Arguments.Gives ended (words ["-", "-h"]) :=
    ⟨words ["-"], words ["-h"], ⟨.inr rfl, plain, by decide⟩, rfl, by decide⟩
  obtain ⟨-, refused, -⟩ := sorted (by decide)
  obtain ⟨-, -, decoded⟩ := taken (by decide)
  obtain ⟨reason, -, -, complained⟩ := refused none
  have shown := helped (.inl rfl) world input
  have said := complained quiet world input
  rw [named] at shown said
  exact ⟨shown, none, said, gives, decoded _ gives world input⟩

end CommandLine
end Backtrace
