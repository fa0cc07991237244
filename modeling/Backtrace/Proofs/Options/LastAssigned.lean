import Backtrace.Options

/-!
# The value assigned last

The options that a text records hold, for each name, what the last line that assigns to the name
assigns. Lines that assign to other names, and lines that are no assignments, have no say.
-/

namespace Backtrace

/-- The value that an assignment gives to a name, if it is to that name. -/
def Assignment.valueFor? (name : Text) (assignment : Assignment) : Option Text :=
  if assignment.name = name then some assignment.value else none

/-- An assignment gives a name a value exactly if it assigns that value to it. -/
theorem Assignment.valueFor?_eq_some_iff {name value : Text} {assignment : Assignment} :
    assignment.valueFor? name = some value ↔ assignment = ⟨name, value⟩ := by
  obtain ⟨target, given⟩ := assignment
  simp [valueFor?]

/-- An assignment gives a name no value exactly if it is to another name. -/
theorem Assignment.valueFor?_eq_none_iff {name : Text} {assignment : Assignment} :
    assignment.valueFor? name = none ↔ assignment.name ≠ name := by
  simp [valueFor?]

namespace Options

/-- The last line of a text that assigns to a name assigns this value. -/
def LastAssigned (text name value : Text) : Prop :=
  ∃ before line after, text.lines = before ++ line :: after ∧
    Assignment.ofLine? line = some ⟨name, value⟩ ∧
    ∀ later ∈ after, ∀ assignment, Assignment.ofLine? later = some assignment →
      assignment.name ≠ name

/-- After assignments in order a name has the last value that they give it, and the value it had
if they give it none. -/
theorem get?_foldl_set (assignments : List Assignment) (options : Options) (name : Text) :
    (assignments.foldl set options).get? name =
      (assignments.filterMap (·.valueFor? name)).getLast?.or (options.get? name) := by
  induction assignments generalizing options with
  | nil => rfl
  | cons assignment later ih =>
    rw [List.foldl_cons, ih, get?_set]
    cases given : assignment.valueFor? name with
    | none =>
      have other : name ≠ assignment.name := (Assignment.valueFor?_eq_none_iff.1 given).symm
      rw [List.filterMap_cons_none given, if_neg other]
    | some value =>
      obtain rfl := Assignment.valueFor?_eq_some_iff.1 given
      rw [List.filterMap_cons_some given, List.getLast?_cons, if_pos rfl]
      cases (later.filterMap (·.valueFor? name)).getLast? <;> rfl

/-- A name has the last value that lines of the text give it. -/
theorem get?_ofText (text name : Text) : (ofText text).get? name =
    (text.lines.filterMap fun line =>
      (Assignment.ofLine? line).bind (·.valueFor? name)).getLast? := by
  rw [ofText, ofAssignments, get?_foldl_set, get?_empty, Option.or_none, List.filterMap_filterMap]

/-- A name has a value in the options of a text exactly when the last line that assigns to the
name assigns that value. -/
theorem get?_ofText_eq_some_iff {text name value : Text} :
    (ofText text).get? name = some value ↔ LastAssigned text name value := by
  have gives (line : Text) : (Assignment.ofLine? line).bind (·.valueFor? name) = some value ↔
      Assignment.ofLine? line = some ⟨name, value⟩ := by
    simp [Option.bind_eq_some_iff, Assignment.valueFor?_eq_some_iff]
  have silent (line : Text) : (Assignment.ofLine? line).bind (·.valueFor? name) = none ↔
      ∀ assignment, Assignment.ofLine? line = some assignment → assignment.name ≠ name := by
    simp [Assignment.valueFor?_eq_none_iff]
  -- The search from the last line on meets first what stands last in the text.
  rw [get?_ofText, List.getLast?_filterMap, List.findSome?_eq_some_iff]
  simp only [gives, silent]
  constructor
  · rintro ⟨after, line, before, split, made, unassigned⟩
    refine ⟨before.reverse, line, after.reverse, ?_, made, fun later inside => ?_⟩
    · rw [List.reverse_eq_iff] at split
      simpa using split
    · exact unassigned later (List.mem_reverse.1 inside)
  · rintro ⟨before, line, after, split, made, unassigned⟩
    refine ⟨after.reverse, line, before.reverse, ?_, made, fun later inside => ?_⟩
    · rw [split]
      simp
    · exact unassigned later (List.mem_reverse.1 inside)

end Options
end Backtrace
