import Backtrace.Proofs.Options.Grammar
import Backtrace.Proofs.Options.RoundTrip
import Mathlib.Logic.Relation

/-!
# Rewriting an options cache

Only the final value of each name counts in a cache. Lines may change places as long as those of
one name keep their order, an assignment may go where a later one has the last word, lines that
assign nothing may come and go, and lines may be ended in either way. Texts of whole lines behave
as maps that override one another: after one text and then another, a name has its value in the
second, or else its value in the first.
-/

namespace Backtrace

open Text

namespace Options

open Assignment

/-- The text is made up of the lines, each without a line feed of its own and with either end; the
last line need not be ended. -/
inductive Joins : List Text → Text → Prop where
  /-- No lines make up the empty text. -/
  | nothing : Joins [] []
  /-- The last line, without an end. -/
  | last {line : Text} (single : '\n' ∉ line) : Joins [line] line
  /-- A line, its end, and the lines after it. -/
  | ended {line text : Text} {lines : List Text} (single : '\n' ∉ line) (ending : LineEnd)
      (later : Joins lines text) : Joins (line :: lines) (line ++ ending.returns ++ '\n' :: text)

/-- A text makes the assignments of the lines that make it up. -/
theorem Joins.filterMap_lines {lines : List Text} {text : Text} (joined : Joins lines text) :
    text.lines.filterMap ofLine? = lines.filterMap ofLine? := by
  induction joined with
  | nothing => rfl
  | @last line single =>
    rw [filterMap_lines_of_single single, List.filterMap_cons, List.filterMap_nil]
    cases ofLine? line <;> rfl
  | @ended line text lines single ending later ih =>
    have one : '\n' ∉ line ++ ending.returns := ending.lineFeed_not_mem_append_returns single
    rw [lines_append_lineFeed one, List.filterMap_cons, List.filterMap_cons, ih,
      ending.ofLine?_append_returns]

/-- The value that lines leave a name with. -/
def finalValue? (name : Text) (lines : List Text) : Option Text :=
  (lines.filterMap (given? name)).getLast?

/-- The values given to a name are among the assignments made. -/
theorem filterMap_given?_eq (name : Text) (lines : List Text) :
    lines.filterMap (given? name) = (lines.filterMap ofLine?).filterMap (·.valueFor? name) := by
  rw [List.filterMap_filterMap]
  rfl

/-- A name has the value that the lines of the text leave it with. -/
theorem get?_of_joins {lines : List Text} {text : Text} (joined : Joins lines text)
    (name : Text) : (ofText text).get? name = finalValue? name lines := by
  have read : (ofText text).get? name = (text.lines.filterMap (given? name)).getLast? :=
    get?_ofText text name
  rw [read, finalValue?, filterMap_given?_eq, joined.filterMap_lines, ← filterMap_given?_eq]

/-- Lines that come later have the last word. -/
theorem finalValue?_append (name : Text) (front back : List Text) :
    finalValue? name (front ++ back) = (finalValue? name back).or (finalValue? name front) := by
  rw [finalValue?, List.filterMap_append, List.getLast?_append]
  rfl

/-- A line that does not assign to a name leaves it alone. -/
theorem finalValue?_cons_of_not {name line : Text} (silent : ¬ AssignsTo name line)
    (lines : List Text) : finalValue? name (line :: lines) = finalValue? name lines := by
  rw [finalValue?, List.filterMap_cons_none (given?_eq_none_iff.2 silent)]
  rfl

/-- Lines with an assignment to a name leave it with a value. -/
theorem isSome_finalValue? {name line : Text} {lines : List Text} (inside : line ∈ lines)
    (assigned : AssignsTo name line) : (finalValue? name lines).isSome := by
  obtain ⟨value, given⟩ := Option.isSome_iff_exists.1 (isSome_given?_iff.2 assigned)
  have listed : value ∈ lines.filterMap (given? name) := List.mem_filterMap.2 ⟨line, inside, given⟩
  rw [finalValue?, Option.isSome_iff_ne_none, ne_eq, List.getLast?_eq_none_iff]
  exact List.ne_nil_of_mem listed

/-- A line assigns to one name at most. -/
theorem eq_of_assignsTo {name other line : Text} (assigned : AssignsTo name line)
    (again : AssignsTo other line) : name = other := by
  obtain ⟨value, first⟩ := assigned
  obtain ⟨given, second⟩ := again
  have same : some (Assignment.mk name value) = some ⟨other, given⟩ :=
    (assigns_iff.1 first).symm.trans (assigns_iff.1 second)
  exact congrArg Assignment.name (Option.some.inj same)

/-- A line from which nothing is read assigns to no name. -/
theorem not_assignsTo_of_none {line : Text} (nothing : ofLine? line = none) (name : Text) :
    ¬ AssignsTo name line := by
  rw [← given?_eq_none_iff, given?, nothing]
  rfl

/-- One rewriting of the lines of a cache. -/
inductive Rewriting : List Text → List Text → Prop where
  /-- Lines change places, while those that assign to one name keep their order. -/
  | permuted {lines others : List Text} (same : lines.Perm others)
      (ordered : ∀ name, lines.filter (AssignsTo name ·) = others.filter (AssignsTo name ·)) :
      Rewriting lines others
  /-- An assignment goes that a later line of the same name shadows. -/
  | unshadowed {name line later : Text} (before between after : List Text)
      (assigned : AssignsTo name line) (again : AssignsTo name later) :
      Rewriting (before ++ line :: (between ++ later :: after))
        (before ++ (between ++ later :: after))
  /-- A line comes in that assigns to no name. -/
  | inserted {line : Text} (before after : List Text) (silent : ∀ name, ¬ AssignsTo name line) :
      Rewriting (before ++ after) (before ++ line :: after)
  /-- A line goes that assigns to no name. -/
  | deleted {line : Text} (before after : List Text) (silent : ∀ name, ¬ AssignsTo name line) :
      Rewriting (before ++ line :: after) (before ++ after)

/-- Two neighbours that do not assign to one name may change places. -/
theorem Rewriting.swapped {first second : Text} (before after : List Text)
    (apart : ∀ name, AssignsTo name first → ¬ AssignsTo name second) :
    Rewriting (before ++ first :: second :: after) (before ++ second :: first :: after) := by
  apply Rewriting.permuted
  · exact (List.Perm.swap second first after).append_left before
  · intro name
    rw [List.filter_append, List.filter_append]
    by_cases assigned : AssignsTo name first
    · have other : ¬ AssignsTo name second := apart name assigned
      simp [assigned, other]
    · simp [List.filter_cons, assigned]

/-- A rewriting leaves every name with the value that it had. -/
theorem Rewriting.finalValue?_eq {lines others : List Text} (rewriting : Rewriting lines others)
    (name : Text) : finalValue? name lines = finalValue? name others := by
  cases rewriting with
  | permuted same ordered =>
    rw [finalValue?, finalValue?, ← filterMap_given?_filter name lines, ordered name,
      filterMap_given?_filter]
  | @unshadowed target line later before between after assigned again =>
    have kept : finalValue? name (line :: (between ++ later :: after)) =
        finalValue? name (between ++ later :: after) := by
      by_cases here : AssignsTo name line
      · obtain rfl : name = target := eq_of_assignsTo here assigned
        have inside : later ∈ between ++ later :: after := by simp
        have valued : (finalValue? name (between ++ later :: after)).isSome :=
          isSome_finalValue? inside again
        rw [← List.singleton_append, finalValue?_append, Option.or_of_isSome valued]
      · exact finalValue?_cons_of_not here _
    rw [finalValue?_append, finalValue?_append, kept]
  | inserted before after silent =>
    rw [finalValue?_append, finalValue?_append, finalValue?_cons_of_not (silent name)]
  | deleted before after silent =>
    rw [finalValue?_append, finalValue?_append, finalValue?_cons_of_not (silent name)]

/-- So does any number of rewritings, one after the other. -/
theorem finalValue?_of_rewritten {lines others : List Text}
    (rewritten : Relation.ReflTransGen Rewriting lines others) (name : Text) :
    finalValue? name lines = finalValue? name others := by
  induction rewritten with
  | refl => rfl
  | tail _ rewriting ih => exact ih.trans (rewriting.finalValue?_eq name)

/-- After a text of whole lines and another text, a name has its value in the second, or else its
value in the first. -/
theorem get?_ofText_append {first : Text} (start : AtLineStart first) (second name : Text) :
    (ofText (first ++ second)).get? name =
      ((ofText second).get? name).or ((ofText first).get? name) := by
  have read : ∀ text : Text, (ofText text).get? name = finalValue? name text.lines :=
    fun text => get?_ofText text name
  rw [read, read, read, lines_append start, finalValue?_append]

/-- Texts of whole lines that agree on the names they share may stand in either order. -/
theorem get?_append_comm {first second : Text} (start : AtLineStart first)
    (other : AtLineStart second)
    (agree : ∀ name left right, (ofText first).get? name = some left →
      (ofText second).get? name = some right → left = right) (name : Text) :
    (ofText (first ++ second)).get? name = (ofText (second ++ first)).get? name := by
  rw [get?_ofText_append start, get?_ofText_append other]
  cases left : (ofText first).get? name with
  | none => rw [Option.or_none, Option.none_or]
  | some value =>
    cases right : (ofText second).get? name with
    | none => rfl
    | some found => rw [Option.some_or, Option.some_or, agree name value found left right]

/-- Options are the same if only their final values are: however lines are rewritten and however
they are ended, no name changes its value. A text of whole lines is overridden by what follows it,
and commutes with another one where the two agree. -/
theorem ofText_by_final_values :
    (∀ lines others text other, Relation.ReflTransGen Rewriting lines others →
      Joins lines text → Joins others other →
        (∀ name, (ofText text).get? name = (ofText other).get? name) ∧
          (ofText text).sameAs (ofText other) = true) ∧
      ∀ first second, AtLineStart first →
        (∀ name, (ofText (first ++ second)).get? name =
          ((ofText second).get? name).or ((ofText first).get? name)) ∧
        (AtLineStart second →
          (∀ name left right, (ofText first).get? name = some left →
            (ofText second).get? name = some right → left = right) →
          (∀ name, (ofText (first ++ second)).get? name = (ofText (second ++ first)).get? name) ∧
            (ofText (first ++ second)).sameAs (ofText (second ++ first)) = true) := by
  constructor
  · intro lines others text other rewritten joined rejoined
    have values : ∀ name, (ofText text).get? name = (ofText other).get? name := by
      intro name
      calc
        (ofText text).get? name = finalValue? name lines := get?_of_joins joined name
        _ = finalValue? name others := finalValue?_of_rewritten rewritten name
        _ = (ofText other).get? name := (get?_of_joins rejoined name).symm
    exact ⟨values, sameAs_iff.2 values⟩
  · intro first second start
    refine ⟨get?_ofText_append start second, fun other agree => ?_⟩
    have values := get?_append_comm start other agree
    exact ⟨values, sameAs_iff.2 values⟩

/-- A comment that goes, neighbours that change places, a line without a name that comes in, and an
assignment that goes for a later one; with carriage returns at other places and no end of the last
line. And two texts that assign to one name alike, once in quotes, and to another name each. -/
theorem ofText_by_final_values_rewritten :
    let text : Text := "A = 1\n# c\r\nB='x'\nA=2\r\n".toList
    let other : Text := "B='x'\r\n=3\nA=2\r".toList
    let first : Text := "A=1\nC=' '\n".toList
    let second : Text := "B=2\r\nA='1'\n".toList
    Relation.ReflTransGen Rewriting
        ["A = 1".toList, "# c".toList, "B='x'".toList, "A=2\r".toList]
        ["B='x'".toList, "=3".toList, "A=2\r".toList] ∧
      (ofText text).sameAs (ofText other) = true ∧
      (ofText (first ++ second)).get? "C".toList = some [' '] ∧
      (ofText (first ++ second)).sameAs (ofText (second ++ first)) = true := by
  intro text other first second
  have apart : ∀ name, AssignsTo name "A = 1".toList → ¬ AssignsTo name "B='x'".toList := by
    intro name assigned again
    have one : name = ['A'] := eq_of_assignsTo assigned (by decide +kernel)
    have two : name = ['B'] := eq_of_assignsTo again (by decide +kernel)
    exact absurd (one.symm.trans two) (by decide)
  have rewritten : Relation.ReflTransGen Rewriting
      ["A = 1".toList, "# c".toList, "B='x'".toList, "A=2\r".toList]
      ["B='x'".toList, "=3".toList, "A=2\r".toList] := by
    apply Relation.ReflTransGen.head
      (.deleted ["A = 1".toList] _ (not_assignsTo_of_none (by decide)))
    apply Relation.ReflTransGen.head (.swapped [] _ apart)
    apply Relation.ReflTransGen.head
      (.inserted ["B='x'".toList] _ (not_assignsTo_of_none (by decide : ofLine? ['=', '3'] = none)))
    apply Relation.ReflTransGen.single
    exact .unshadowed ["B='x'".toList, "=3".toList] [] [] (by decide +kernel : AssignsTo ['A'] _)
      (by decide +kernel)
  have joined : Joins ["A = 1".toList, "# c".toList, "B='x'".toList, "A=2\r".toList] text :=
    .ended (by decide) .lineFeed (.ended (by decide) .returnAndLineFeed
      (.ended (by decide) .lineFeed (.ended (by decide) .lineFeed .nothing)))
  have rejoined : Joins ["B='x'".toList, "=3".toList, "A=2\r".toList] other :=
    .ended (by decide) .returnAndLineFeed (.ended (by decide) .lineFeed (.last (by decide)))
  have agree : ∀ name left right, (ofText first).get? name = some left →
      (ofText second).get? name = some right → left = right := by
    intro name left right found again
    have inside : (name, left) ∈ (ofText first).entries := mem_of_get? found
    have entries : (ofText first).entries = [("C".toList, [' ']), ("A".toList, ['1'])] := by
      decide +kernel
    rw [entries, List.mem_cons, List.mem_singleton] at inside
    rcases inside with same | same
    · obtain ⟨rfl, rfl⟩ := Prod.mk.inj same
      have absent : (ofText second).get? "C".toList = none := by decide +kernel
      exact absurd (again.symm.trans absent) (Option.some_ne_none right)
    · obtain ⟨rfl, rfl⟩ := Prod.mk.inj same
      have value : (ofText second).get? "A".toList = some ['1'] := by decide +kernel
      exact Option.some.inj (value.symm.trans again)
  obtain ⟨kept, overriding⟩ := ofText_by_final_values
  obtain ⟨values, commuting⟩ := overriding first second (by decide)
  have value : ((ofText second).get? "C".toList).or ((ofText first).get? "C".toList) =
      some [' '] := by decide +kernel
  obtain ⟨-, alike⟩ := kept _ _ text other rewritten joined rejoined
  obtain ⟨-, exchanged⟩ := commuting (by decide) agree
  exact ⟨rewritten, alike, (values _).trans value, exchanged⟩

end Options
end Backtrace
