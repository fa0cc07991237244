import Backtrace.Options.Assignment
import Backtrace.Text.Lines

/-!
# Options

The options of a build, as its cache records them: one value for each name that is assigned to,
the one that was assigned last. Two collections of options are the same when they have the same
values; the laws here say what setting an option does to its value and to those of others.
-/

namespace Backtrace

/-- Values by name. -/
structure Options where
  /-- Each name with its value, in no particular order. -/
  entries : List (Text × Text)
  /-- No name has two values. -/
  unique : (entries.map Prod.fst).Nodup

namespace Options

/-- No options. -/
def empty : Options := ⟨[], List.nodup_nil⟩

/-- The value of a name. -/
def get? (options : Options) (name : Text) : Option Text := options.entries.lookup name

/-- The options with a value for a name, in place of any that it had. -/
def set (options : Options) (assignment : Assignment) : Options where
  entries := (assignment.name, assignment.value) ::
    options.entries.filter (fun entry => entry.1 != assignment.name)
  unique := by
    rw [List.map_cons, List.nodup_cons]
    constructor
    · simp
    · exact (List.filter_sublist.map Prod.fst).nodup options.unique

/-- The options after assignments made in order. -/
def ofAssignments (assignments : List Assignment) : Options := assignments.foldl set empty

/-- The options that a text records: those of the assignments among its lines. -/
def ofText (text : Text) : Options := ofAssignments (text.lines.filterMap Assignment.ofLine?)

/-- The same values for the same names. -/
def sameAs (left right : Options) : Bool :=
  left.entries.all (fun entry => right.get? entry.1 == some entry.2) &&
    right.entries.all (fun entry => left.get? entry.1 == some entry.2)

/-- Without options no name has a value. -/
@[simp] theorem get?_empty (name : Text) : empty.get? name = none := rfl

/-- Entries that a filter keeps for other names do not change the value of a name. -/
theorem lookup_filter_ne {entries : List (Text × Text)} {name other : Text}
    (different : name ≠ other) :
    (entries.filter (fun entry => entry.1 != other)).lookup name = entries.lookup name := by
  induction entries with
  | nil => rfl
  | cons entry rest ih =>
    obtain ⟨key, value⟩ := entry
    by_cases dropped : key = other
    · subst dropped
      have distinct : (name == key) = false := by simpa using different
      simp [List.lookup_cons, distinct, ih]
    · simp [dropped, List.lookup_cons, ih]

/-- A name has the value that was set last; setting one name leaves the others alone. -/
theorem get?_set (options : Options) (assignment : Assignment) (name : Text) :
    (options.set assignment).get? name =
      if name = assignment.name then some assignment.value else options.get? name := by
  unfold get? set
  by_cases same : name = assignment.name
  · subst same
    simp
  · have distinct : (name == assignment.name) = false := by simpa using same
    rw [List.lookup_cons]
    simp only [distinct, if_neg same]
    exact lookup_filter_ne same

/-- An entry is the value of its name. -/
theorem get?_of_mem {options : Options} {entry : Text × Text} (inside : entry ∈ options.entries) :
    options.get? entry.1 = some entry.2 := by
  obtain ⟨entries, unique⟩ := options
  unfold get?
  dsimp only at inside ⊢
  induction entries with
  | nil => simp at inside
  | cons first rest ih =>
    rw [List.map_cons, List.nodup_cons] at unique
    rcases List.mem_cons.1 inside with rfl | inside
    · rw [List.lookup_cons, beq_self_eq_true]
    · have distinct : (entry.1 == first.1) = false := by
        rw [beq_eq_false_iff_ne]
        intro same
        exact unique.1 (same ▸ List.mem_map_of_mem inside)
      rw [List.lookup_cons, distinct]
      exact ih unique.2 inside

/-- A name with a value has an entry. -/
theorem mem_of_get? {options : Options} {name value : Text}
    (found : options.get? name = some value) : (name, value) ∈ options.entries := by
  obtain ⟨entries, unique⟩ := options
  unfold get? at found
  dsimp only at found ⊢
  clear unique
  induction entries with
  | nil => simp at found
  | cons first rest ih =>
    rw [List.lookup_cons] at found
    split at found
    · rename_i same
      rw [beq_iff_eq] at same
      obtain rfl := Option.some.inj found
      exact List.mem_cons.2 (.inl (by rw [same]))
    · exact List.mem_cons_of_mem _ (ih found)

/-- Options are the same exactly when every name has the same value. -/
theorem sameAs_iff {left right : Options} :
    left.sameAs right = true ↔ ∀ name, left.get? name = right.get? name := by
  simp only [sameAs, Bool.and_eq_true, List.all_eq_true, beq_iff_eq]
  constructor
  · rintro ⟨forward, backward⟩ name
    cases found : left.get? name with
    | some value => exact (forward _ (mem_of_get? found)).symm
    | none =>
      cases other : right.get? name with
      | none => rfl
      | some value => rw [← backward _ (mem_of_get? other), found]
  · intro same
    exact ⟨fun entry inside => (same _).symm.trans (get?_of_mem inside),
      fun entry inside => (same _).trans (get?_of_mem inside)⟩

end Options
end Backtrace
