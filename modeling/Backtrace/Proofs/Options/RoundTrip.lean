import Backtrace.Proofs.Options.LastAssigned
import Backtrace.Proofs.Options.Spelling
import Backtrace.Proofs.Text.Lines

/-!
# Writing options and reading them back

Options can be written as a cache: each assignment on a line of its own, with the value in quotes
of either kind, and among these lines any that spell no assignment. Whatever a value holds, apart
from a line feed, it is read back as it was written, since the quotes keep its blanks and only the
outermost of them are removed. What is read from any text can in turn be written.
-/

namespace Backtrace

open Text Assignment

/-- The end of a line. -/
inductive LineEnd where
  | lineFeed
  | returnAndLineFeed

/-- The carriage returns before the line feed. -/
def LineEnd.returns : LineEnd → Text
  | lineFeed => []
  | returnAndLineFeed => ['\r']

namespace LineEnd

/-- A line feed ends a line, and nothing before does. -/
theorem lineFeed_not_mem_append_returns {line : Text} (single : '\n' ∉ line) (ending : LineEnd) :
    '\n' ∉ line ++ ending.returns := by
  cases ending <;> simp [returns, single]

/-- The end of a line makes no difference to what is read from it. -/
theorem ofLine?_append_returns (line : Text) (ending : LineEnd) :
    ofLine? (line ++ ending.returns).dropReturn = ofLine? line := by
  rw [ofLine?_dropReturn]
  cases ending with
  | lineFeed => rw [returns, List.append_nil]
  | returnAndLineFeed => rw [returns, ofLine?_append_blank (by decide)]

end LineEnd

/-- From a line that is not ended what it assigns is read, and nothing if it is empty. -/
theorem Assignment.filterMap_lines_of_single {line : Text} (single : '\n' ∉ line) :
    (lines line).filterMap ofLine? = (ofLine? line).toList := by
  by_cases empty : line = []
  · rw [empty, lines_nil]
    rfl
  · rw [lines_of_single empty single, List.filterMap_cons, List.filterMap_nil]
    cases ofLine? line <;> rfl

/-- One line of a cache. -/
inductive CacheLine where
  /-- An assignment with its value in quotes. -/
  | assigned (assignment : Assignment) (quote : Quote) (named : isName assignment.name = true)
      (single : '\n' ∉ assignment.value)
  /-- Any line that spells no assignment. -/
  | other (line : Text) (single : '\n' ∉ line) (silent : ∀ assignment, ¬ Spells line assignment)

namespace CacheLine

/-- The line without its end. -/
def text : CacheLine → Text
  | assigned assignment quote _ _ =>
    assignment.name ++ [' ', '=', ' '] ++ quote.around assignment.value
  | other line _ _ => line

/-- The assignment on the line. -/
def assignment? : CacheLine → Option Assignment
  | assigned assignment _ _ _ => some assignment
  | other _ _ _ => none

/-- A line is read as it was meant. -/
theorem ofLine?_text (line : CacheLine) : ofLine? line.text = line.assignment? := by
  cases line with
  | assigned assignment quote named single =>
    exact ofLine?_eq_some_iff.2 (spells_quoted named quote)
  | other line single silent => exact ofLine?_eq_none_iff.2 silent

/-- A line holds no line feed. -/
theorem lineFeed_not_mem_text (line : CacheLine) : '\n' ∉ line.text := by
  cases line with
  | assigned assignment quote named single =>
    have name : '\n' ∉ assignment.name :=
      lineFeed_not_mem_of_unbroken (unbroken_of_isName named)
    have mark : '\n' ≠ quote.mark := by cases quote <;> decide
    simp [text, Quote.around, name, single, mark]
  | other line single silent => exact single

/-- The line up to the line feed that ends it. -/
def ended (line : CacheLine) (ending : LineEnd) : Text := line.text ++ ending.returns

/-- A line feed ends a line, and nothing before does. -/
theorem lineFeed_not_mem_ended (line : CacheLine) (ending : LineEnd) :
    '\n' ∉ line.ended ending :=
  ending.lineFeed_not_mem_append_returns line.lineFeed_not_mem_text

/-- The end of a line makes no difference to its assignment. -/
theorem ofLine?_ended (line : CacheLine) (ending : LineEnd) :
    ofLine? (line.ended ending).dropReturn = line.assignment? := by
  rw [ended, LineEnd.ofLine?_append_returns, ofLine?_text]

/-- A line that is not ended is read as it was meant, and as nothing if it is empty. -/
theorem filterMap_lines_text (line : CacheLine) :
    (lines line.text).filterMap ofLine? = line.assignment?.toList := by
  rw [filterMap_lines_of_single line.lineFeed_not_mem_text, line.ofLine?_text]

end CacheLine

/-- A cache that is made up of lines. -/
structure CacheFile where
  /-- The lines that are ended, each with its end. -/
  finished : List (CacheLine × LineEnd)
  /-- The last line, if it is not ended. -/
  last : Option CacheLine

namespace CacheFile

/-- The lines that are ended, up to the line feeds that end them. -/
def endedLines (file : CacheFile) : List Text :=
  file.finished.map fun (line, ending) => line.ended ending

/-- The text of the cache. -/
def text (file : CacheFile) : Text :=
  file.endedLines.flatMap (· ++ ['\n']) ++ file.last.elim [] CacheLine.text

/-- The assignments of the cache in order. -/
def assignments (file : CacheFile) : List Assignment :=
  file.finished.filterMap (·.1.assignment?) ++ (file.last.bind CacheLine.assignment?).toList

/-- The lines of a cache are read as they were meant. -/
theorem filterMap_lines_text (file : CacheFile) :
    file.text.lines.filterMap ofLine? = file.assignments := by
  have single : ∀ line ∈ file.endedLines, '\n' ∉ line := by
    intro line inside
    obtain ⟨⟨written, ending⟩, -, rfl⟩ := List.mem_map.1 inside
    exact written.lineFeed_not_mem_ended ending
  have finished : (file.endedLines.map dropReturn).filterMap ofLine? =
      file.finished.filterMap (·.1.assignment?) := by
    rw [endedLines, List.map_map, List.filterMap_map]
    apply congrArg (file.finished.filterMap ·)
    funext (line, ending)
    exact line.ofLine?_ended ending
  have last : (lines (file.last.elim [] CacheLine.text)).filterMap ofLine? =
      (file.last.bind CacheLine.assignment?).toList := by
    cases file.last with
    | none =>
      rw [Option.elim_none, lines_nil, List.filterMap_nil, Option.bind_none, Option.toList_none]
    | some line => exact line.filterMap_lines_text
  rw [text, lines_flatMap_append single, List.filterMap_append, finished, last, assignments]

end CacheFile

namespace Options

/-- The options of a written cache are those of its assignments. -/
theorem ofText_text (file : CacheFile) : ofText file.text = ofAssignments file.assignments := by
  rw [ofText, file.filterMap_lines_text]

/-- After assignments a name has the value of the last one that is to it. -/
theorem get?_ofAssignments (assignments : List Assignment) (name : Text) :
    (ofAssignments assignments).get? name =
      ((assignments.filter (·.name = name)).getLast?).map Assignment.value := by
  have given : assignments.filterMap (·.valueFor? name) =
      (assignments.filter (·.name = name)).map Assignment.value := by
    induction assignments with
    | nil => rfl
    | cons assignment later ih =>
      by_cases same : assignment.name = name
      · have value : assignment.valueFor? name = some assignment.value := by
          rw [valueFor?, if_pos same]
        rw [List.filterMap_cons_some value, ih, List.filter_cons_of_pos (by simpa using same),
          List.map_cons]
      · rw [List.filterMap_cons_none (valueFor?_eq_none_iff.2 same), ih,
          List.filter_cons_of_neg (by simpa using same)]
  rw [ofAssignments, get?_foldl_set, get?_empty, Option.or_none, given, List.getLast?_map]

/-- An entry of the options of a text was assigned on one of its lines. -/
theorem exists_line_of_mem {text : Text} {entry : Text × Text}
    (inside : entry ∈ (ofText text).entries) :
    ∃ line ∈ text.lines, ofLine? line = some ⟨entry.1, entry.2⟩ := by
  obtain ⟨before, line, after, split, made, -⟩ := get?_ofText_eq_some_iff.1 (get?_of_mem inside)
  exact ⟨line, by rw [split]; simp, made⟩

/-- The names of options that a text records are names, and their values hold no line feed. -/
theorem isName_of_mem_ofText {text : Text} {entry : Text × Text}
    (inside : entry ∈ (ofText text).entries) :
    isName entry.1 = true ∧ '\n' ∉ entry.2 := by
  obtain ⟨line, found, made⟩ := exists_line_of_mem inside
  refine ⟨isName_of_ofLine? made, fun feed => ?_⟩
  exact lineFeed_not_mem_of_mem_lines found (mem_of_mem_value (ofLine?_eq_some_iff.1 made) feed)

/-- An entry as an assignment. -/
def assignmentOf (entry : Text × Text) : Assignment := ⟨entry.1, entry.2⟩

/-- Options are restored by assigning their entries, in any order. -/
theorem get?_ofAssignments_entries {options : Options} {order : List (Text × Text)}
    (permuted : order.Perm options.entries) (name : Text) :
    (ofAssignments (order.map assignmentOf)).get? name = options.get? name := by
  rw [get?_ofAssignments]
  cases last : ((order.map assignmentOf).filter (·.name = name)).getLast? with
  | some assignment =>
    obtain ⟨found, named⟩ := List.mem_filter.1 (List.mem_of_getLast? last)
    obtain ⟨entry, listed, rfl⟩ := List.mem_map.1 found
    obtain rfl : entry.1 = name := of_decide_eq_true named
    exact (get?_of_mem (permuted.subset listed)).symm
  | none =>
    have absent : (order.map assignmentOf).filter (·.name = name) = [] :=
      List.getLast?_eq_none_iff.1 last
    refine (Option.eq_none_iff_forall_ne_some.2 fun value found => ?_).symm
    have listed : (name, value) ∈ order := permuted.symm.subset (mem_of_get? found)
    have kept : assignmentOf (name, value) ∈ (order.map assignmentOf).filter (·.name = name) :=
      List.mem_filter.2 ⟨List.mem_map_of_mem listed, by simp [assignmentOf]⟩
    rw [absent] at kept
    simp at kept

/-- Entries with names and values that can be written make up a cache. -/
theorem exists_file {order : List (Text × Text)}
    (writable : ∀ entry ∈ order, isName entry.1 = true ∧ '\n' ∉ entry.2) :
    ∃ file : CacheFile, file.assignments = order.map assignmentOf := by
  induction order with
  | nil => exact ⟨⟨[], none⟩, rfl⟩
  | cons entry later ih =>
    obtain ⟨named, single⟩ := writable entry List.mem_cons_self
    obtain ⟨file, written⟩ := ih fun other inside => writable other (List.mem_cons_of_mem _ inside)
    refine ⟨⟨(.assigned (assignmentOf entry) .double named single, .lineFeed) :: file.finished,
      file.last⟩, ?_⟩
    rw [List.map_cons, ← written]
    rfl

/-- The cache format keeps options. A cache of assignments in quotes is read as the values that
were assigned last and nothing else. The entries of the options of any text can be written in any
order, and every cache of them is read as the same options. -/
theorem ofText_roundTrip :
    (∀ (file : CacheFile) (name : Text), (ofText file.text).get? name =
        ((file.assignments.filter (·.name = name)).getLast?).map Assignment.value) ∧
      (∀ text, ∀ entry ∈ (ofText text).entries, isName entry.1 = true ∧ '\n' ∉ entry.2) ∧
      ∀ text (order : List (Text × Text)), order.Perm (ofText text).entries →
        (∃ file : CacheFile, file.assignments = order.map assignmentOf) ∧
          ∀ file : CacheFile, file.assignments = order.map assignmentOf →
            (∀ name, (ofText file.text).get? name = (ofText text).get? name) ∧
              (ofText file.text).sameAs (ofText text) = true := by
  refine ⟨?_, fun text entry inside => isName_of_mem_ofText inside, ?_⟩
  · intro file name
    rw [ofText_text, get?_ofAssignments]
  · intro text order permuted
    have writable : ∀ entry ∈ order, isName entry.1 = true ∧ '\n' ∉ entry.2 :=
      fun entry inside => isName_of_mem_ofText (permuted.subset inside)
    refine ⟨exists_file writable, fun file written => ?_⟩
    have values : ∀ name, (ofText file.text).get? name = (ofText text).get? name := by
      rw [ofText_text, written]
      exact get?_ofAssignments_entries permuted
    exact ⟨values, sameAs_iff.2 values⟩

/-- Values with quotes, an equals sign, a blank and a carriage return at their ends, between a
comment and a line whose name is none, and the entries written once more in another order. -/
theorem ofText_roundTrip_mixed :
    let comment : Text := ['#', 'A', '=', '1']
    let unnamed : Text := ['=', '\r']
    let shadowed : Assignment := ⟨['A'], []⟩
    let last : Assignment := ⟨['A'], [' ', '\'', '=', '\r']⟩
    let quoted : Assignment := ⟨['_', '1'], ['"', '"']⟩
    ∃ file : CacheFile,
      file.text = comment ++ '\n' :: "A = ''\r\n".toList ++ unnamed ++ '\n' ::
        "A = ' '=\r'\n_1 = \"\"\"\"".toList ∧
      file.assignments = [shadowed, last, quoted] ∧
      (ofText file.text).get? ['A'] = some last.value ∧
      (ofText file.text).get? ['_', '1'] = some quoted.value ∧
      (ofText file.text).get? ['#', 'A'] = none ∧
      ∃ again : CacheFile,
        again.assignments = (ofText file.text).entries.reverse.map assignmentOf ∧
          (ofText again.text).sameAs (ofText file.text) = true := by
  intro comment unnamed shadowed last quoted
  have silent : ∀ assignment, ¬ Spells comment assignment := ofLine?_eq_none_iff.1 (by decide)
  have nameless : ∀ assignment, ¬ Spells unnamed assignment := ofLine?_eq_none_iff.1 (by decide)
  let file : CacheFile :=
    ⟨[(.other comment (by decide) silent, .lineFeed),
      (.assigned shadowed .single (by decide) (by decide), .returnAndLineFeed),
      (.other unnamed (by decide) nameless, .lineFeed),
      (.assigned last .single (by decide) (by decide), .lineFeed)],
      some (.assigned quoted .double (by decide) (by decide))⟩
  obtain ⟨values, -, restored⟩ := ofText_roundTrip
  have permuted : (ofText file.text).entries.reverse.Perm (ofText file.text).entries :=
    List.reverse_perm _
  obtain ⟨⟨again, written⟩, same⟩ := restored file.text _ permuted
  exact ⟨file, by rfl, rfl, (values file _).trans (by rfl), (values file _).trans (by rfl),
    (values file _).trans (by rfl), again, written, (same again written).2⟩

end Options
end Backtrace
