import Backtrace.Path

/-!
# Components of joined paths

Joining works on bytes, and where it puts a slash depends on how the first path ends. On
components it is one rule: what is joined follows the first path, without an explicit start of its
own, unless it is absolute or there is nothing before it. Paths that are the same therefore stay
the same when same paths are joined to them, although sameness is coarser than equality of bytes.
-/

namespace Backtrace.Path

namespace Component

/-- The components after the explicit `.` that a relative path may start with. -/
def afterCurrent : List Component → List Component
  | .current :: later => later
  | components => components

/-- Components joined to those before them: an absolute path stands for itself, and so does a path
with nothing before it. -/
def joined (before added : List Component) : List Component :=
  if added.head? = some .root ∨ before = [] then added else before ++ afterCurrent added

/-- The component that a name makes. -/
def ofText (text : Text) : Component := .name (Utf8.encode text)

/-- A single name follows what is before it. -/
theorem joined_ofText (before : List Component) (text : Text) :
    joined before [ofText text] = before ++ [ofText text] := by
  by_cases nothing : before = []
  · simp [joined, nothing]
  · simp [joined, nothing, afterCurrent, ofText]

/-- Components that do not start at the root follow what is before them. -/
theorem joined_of_relative {before added : List Component} (nonempty : before ≠ [])
    (relative : added.head? ≠ some .root) : joined before added = before ++ afterCurrent added := by
  simp [joined, nonempty, relative]

end Component

/-- The components of a path after its start. -/
def steps (path : Path) : List Component := path.parts.filterMap componentOfPart

/-- No part after the start is a root or an explicit start. -/
theorem mem_steps {path : Path} {component : Component} (inside : component ∈ path.steps) :
    component ≠ .root ∧ component ≠ .current := by
  obtain ⟨part, -, made⟩ := List.mem_filterMap.1 inside
  unfold componentOfPart at made
  split at made
  · simp at made
  split at made
  · simp [← Option.some.inj made]
  · simp [← Option.some.inj made]

/-- A slash separates steps from steps. -/
theorem steps_append_slash (front back : Bytes) : (Path.mk (front ++ slash :: back)).steps =
    (Path.mk front).steps ++ (Path.mk back).steps := by
  unfold steps parts
  rw [List.splitOn_append_cons_self, List.filterMap_append]

/-- An empty path has no steps. -/
theorem steps_nil : (Path.mk []).steps = [] := rfl

/-- What stands before the first slash decides about the start of a path. -/
theorem leading_append_slash {front : Bytes} (nonempty : front ≠ []) (back : Bytes) :
    (Path.mk (front ++ slash :: back)).leading = (Path.mk front).leading := by
  have first : (front ++ slash :: back).head? = front.head? := by
    rw [List.head?_append, List.head?_eq_some_head nonempty, Option.some_or]
  have part : ((front ++ slash :: back).splitOn slash).head? = (front.splitOn slash).head? := by
    rw [List.splitOn_append_cons_self, List.head?_append,
      List.head?_eq_some_head (List.splitOn_ne_nil _ _), Option.some_or]
  unfold leading isAbsolute parts
  rw [first, part]

/-- After a slash the steps of what follows are added. -/
theorem components_append_slash (front back : Bytes) :
    (Path.mk (front ++ slash :: back)).components =
      (Path.mk (front ++ [slash])).components ++ (Path.mk back).steps := by
  have split : (Path.mk (front ++ slash :: back)).steps =
      (Path.mk (front ++ [slash])).steps ++ (Path.mk back).steps := by
    rw [steps_append_slash, steps_append_slash, steps_nil, List.append_nil]
  have start : (Path.mk (front ++ slash :: back)).leading =
      (Path.mk (front ++ [slash])).leading := by
    by_cases nonempty : front = []
    · rw [nonempty]
      rfl
    · rw [leading_append_slash nonempty, leading_append_slash nonempty]
  change leading _ ++ steps _ = (leading _ ++ steps _) ++ _
  rw [split, start, List.append_assoc]

/-- A slash at the end of a path that is not empty does not count. -/
theorem components_concat_slash {front : Bytes} (nonempty : front ≠ []) :
    (Path.mk (front ++ [slash])).components = (Path.mk front).components := by
  change leading _ ++ steps _ = leading _ ++ steps _
  rw [leading_append_slash nonempty, steps_append_slash, steps_nil, List.append_nil]

/-- A path of one part that is not empty has a component. -/
theorem components_ne_nil_of_single {part : Bytes} (nonempty : part ≠ []) (single : slash ∉ part) :
    (Path.mk part).components ≠ [] := by
  have alone : (Path.mk part).parts = [part] := List.splitOn_eq_singleton single
  by_cases explicit : part = dot
  · rw [explicit]
    decide
  · have stepped : (Path.mk part).steps ≠ [] := by
      rw [steps, alone]
      by_cases above : part = dotDot
      · rw [above]
        decide
      · simp [componentOfPart, nonempty, explicit, above]
    exact List.append_ne_nil_of_right_ne_nil _ stepped

/-- Only the empty path has no components. -/
theorem components_eq_nil_iff {path : Path} : path.components = [] ↔ path.bytes = [] := by
  obtain ⟨bytes⟩ := path
  constructor
  · intro nothing
    apply Decidable.byContradiction
    intro nonempty
    by_cases separated : slash ∈ bytes
    · obtain ⟨front, back, rfl, single⟩ := List.eq_append_cons_of_mem separated
      by_cases opening : front = []
      · rw [opening] at nothing
        exact List.cons_ne_nil _ _ nothing
      · have some : (Path.mk front).components ≠ [] := components_ne_nil_of_single opening single
        rw [components_append_slash, components_concat_slash opening] at nothing
        exact some (List.append_eq_nil_iff.1 nothing).1
    · exact components_ne_nil_of_single nonempty separated nothing
  · rintro rfl
    rfl

/-- Exactly the absolute paths start at the root. -/
theorem isAbsolute_iff {path : Path} :
    path.isAbsolute = true ↔ path.components.head? = some .root := by
  have started : path.components = path.leading ++ path.steps := rfl
  constructor
  · intro absolute
    rw [started, leading, if_pos absolute]
    rfl
  · intro root
    apply Decidable.byContradiction
    intro relative
    have inside : Component.root ∈ path.leading ++ path.steps := List.mem_of_mem_head? root
    rcases List.mem_append.1 inside with start | step
    · rw [leading, if_neg relative] at start
      split at start <;> simp at start
    · exact (mem_steps step).1 rfl

/-- A text spells an absolute path if it starts with a slash. -/
theorem isAbsolute_ofText_iff {text : Text} :
    (ofText text).isAbsolute = true ↔ text.head? = some '/' := by
  constructor
  · intro absolute
    have first : (Utf8.encode text).head? = some slash := eq_of_beq absolute
    obtain ⟨rest, whole⟩ := List.head?_eq_some_iff.1 first
    have read : text = '/' :: Utf8.decodeLossy rest := by
      rw [← Utf8.decodeLossy_encode text, whole]
      exact Utf8.decodeLossy_append_ascii (by decide) [] rest
    rw [read]
    rfl
  · intro first
    obtain ⟨rest, rfl⟩ := List.head?_eq_some_iff.1 first
    rfl

/-- The steps of a relative path are its components after an explicit start. -/
theorem afterCurrent_components {path : Path} (relative : path.isAbsolute = false) :
    Component.afterCurrent path.components = path.steps := by
  have started : path.components = path.leading ++ path.steps := rfl
  rw [started, leading, if_neg (by simp [relative])]
  split
  · rfl
  · change Component.afterCurrent path.steps = path.steps
    cases first : path.steps with
    | nil => rfl
    | cons component later =>
      have inside : component ∈ path.steps := by
        rw [first]
        exact List.mem_cons_self
      have other : component ≠ .current := (mem_steps inside).2
      cases component with
      | current => contradiction
      | _ => rfl

/-- The components of a joined path are those of its two parts joined. -/
theorem components_join (base addition : Path) : (base.join addition).components =
    Component.joined base.components addition.components := by
  by_cases absolute : addition.isAbsolute = true
  · have root : addition.components.head? = some .root := isAbsolute_iff.1 absolute
    rw [join_of_isAbsolute absolute, Component.joined, if_pos (.inl root)]
  · have relative : addition.isAbsolute = false := Bool.eq_false_iff.2 absolute
    by_cases nothing : base.bytes = []
    · have replaced : base.join addition = addition := by simp [join, nothing]
      rw [replaced, Component.joined, if_pos (.inr (components_eq_nil_iff.2 nothing))]
    · have nonempty : base.components ≠ [] := fun empty => nothing (components_eq_nil_iff.1 empty)
      have unrooted : addition.components.head? ≠ some .root :=
        fun root => absolute (isAbsolute_iff.2 root)
      rw [Component.joined_of_relative nonempty unrooted, afterCurrent_components relative]
      by_cases ended : base.bytes.getLast? = some slash
      -- The slash at the end of the base is the one that separates.
      · obtain ⟨front, whole⟩ := List.getLast?_eq_some_iff.1 ended
        have bytes : base.join addition = ⟨front ++ slash :: addition.bytes⟩ := by
          simp [join, relative, whole]
        rw [bytes, components_append_slash, ← whole]
      · have bytes : base.join addition = ⟨base.bytes ++ slash :: addition.bytes⟩ := by
          simp [join, relative, nothing, ended]
        rw [bytes, components_append_slash, components_concat_slash nothing]

/-- Paths that are the same stay the same when same paths are joined to them. -/
theorem sameAs_join {base other addition added : Path} (bases : base.sameAs other = true)
    (additions : addition.sameAs added = true) :
    (base.join addition).sameAs (other.join added) = true := by
  rw [sameAs_iff] at bases additions ⊢
  rw [components_join, components_join, bases, additions]

end Backtrace.Path
