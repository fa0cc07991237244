import Backtrace.Proofs.Path.Components
import Mathlib.Data.List.DropRight

/-!
# The name at the end of a path

Components are found from the start of a path; the name can be read from the end of the bytes
alone. A slash at the end, or a dot after a slash, is removed until there is none. What then stands
after the last slash is the name, unless it is empty or consists of one dot or two. One removal
leaves the components as they are, but for those of a bare root, which has no name either; so any
number of them leaves the name.
-/

namespace Backtrace.Path

/-- What is left of the bytes when a slash at their end, or a dot there together with the slash
before it, is removed again and again. -/
def trimmed (bytes : Bytes) : Bytes :=
  if [slash] <:+ bytes then trimmed (bytes.rdrop 1)
  else if slash :: dot <:+ bytes then trimmed (bytes.rdrop 2)
  else bytes
termination_by bytes.length
decreasing_by
  all_goals
    obtain ⟨front, rfl⟩ := ‹_ <:+ bytes›
    simp [List.rdrop, dot]

/-- What stands after the last slash of the bytes; all of them if there is none. -/
def lastPart (bytes : Bytes) : Bytes := bytes.rtakeWhile (· != slash)

/-- A part that names no file or directory of its own. -/
def IsNameless (part : Bytes) : Prop := part = [] ∨ part = dot ∨ part = dotDot

instance (part : Bytes) : Decidable (IsNameless part) :=
  inferInstanceAs (Decidable (part = [] ∨ part = dot ∨ part = dotDot))

/-- The name that a part gives to the path that it ends. -/
def nameOfPart? (part : Bytes) : Option Bytes :=
  if IsNameless part then none else some part

/-- Nothing is left to remove at the end of trimmed bytes. -/
theorem not_suffix_trimmed (bytes : Bytes) :
    ¬ [slash] <:+ trimmed bytes ∧ ¬ slash :: dot <:+ trimmed bytes := by
  fun_induction trimmed bytes with
  | case1 bytes ended ih => exact ih
  | case2 bytes other ended ih => exact ih
  | case3 bytes other another => exact ⟨other, another⟩

/-- A slash at the end of a path has no say in its name. -/
theorem fileName?_concat_slash (front : Bytes) :
    (Path.mk (front ++ [slash])).fileName? = (Path.mk front).fileName? := by
  by_cases nothing : front = []
  -- The bare slash is a root and the empty path nothing at all, but neither has a name.
  · rw [nothing]
    rfl
  · rw [fileName?, components_concat_slash nothing]
    rfl

/-- A dot after a slash at the end of a path has no say in its name. -/
theorem fileName?_append_dot (front : Bytes) :
    (Path.mk (front ++ slash :: dot)).fileName? = (Path.mk front).fileName? := by
  have silent : (Path.mk dot).steps = [] := by decide
  have same : (Path.mk (front ++ slash :: dot)).components =
      (Path.mk (front ++ [slash])).components := by
    rw [components_append_slash, silent, List.append_nil]
  calc
    (Path.mk (front ++ slash :: dot)).fileName? = (Path.mk (front ++ [slash])).fileName? := by
      rw [fileName?, same]
      rfl
    _ = (Path.mk front).fileName? := fileName?_concat_slash front

/-- Trimmed bytes have the name of the path. -/
theorem fileName?_trimmed (bytes : Bytes) :
    (Path.mk (trimmed bytes)).fileName? = (Path.mk bytes).fileName? := by
  fun_induction trimmed bytes with
  | case1 bytes ended ih =>
    obtain ⟨front, rfl⟩ := ended
    have shorter : (front ++ [slash]).rdrop 1 = front := by simp [List.rdrop]
    rw [ih, shorter, fileName?_concat_slash]
  | case2 bytes other ended ih =>
    obtain ⟨front, rfl⟩ := ended
    have shorter : (front ++ slash :: dot).rdrop 2 = front := by simp [List.rdrop, dot]
    rw [ih, shorter, fileName?_append_dot]
  | case3 => rfl

/-- Bytes are their last part, or end with it after a slash. -/
theorem exists_lastPart (bytes : Bytes) : slash ∉ lastPart bytes ∧
    (bytes = lastPart bytes ∨ ∃ front, bytes = front ++ slash :: lastPart bytes) := by
  constructor
  · intro inside
    have kept := List.mem_rtakeWhile_imp inside
    simp at kept
  · have whole : bytes.rdropWhile (· != slash) ++ lastPart bytes = bytes :=
      List.rdropWhile_append_rtakeWhile
    by_cases alone : bytes.rdropWhile (· != slash) = []
    · rw [alone] at whole
      exact .inl whole.symm
    · have final : (bytes.rdropWhile (· != slash)).getLast alone = slash := by
        simpa using List.rdropWhile_last_not (· != slash) bytes alone
      obtain ⟨front, split⟩ := List.getLast?_eq_some_iff.1
        ((List.getLast?_eq_some_getLast alone).trans (congrArg some final))
      refine .inr ⟨front, ?_⟩
      rw [split] at whole
      simpa using whole.symm

variable {front part : Bytes}

/-- A part without slashes is one step, unless it is empty or a dot. -/
theorem steps_of_single (single : slash ∉ part) :
    (Path.mk part).steps = (componentOfPart part).toList := by
  have alone : (Path.mk part).parts = [part] := List.splitOn_eq_singleton single
  rw [steps, alone]
  cases made : componentOfPart part <;> simp [made]

/-- A path whose components end with the step of a part has the name that this part gives. -/
theorem fileName?_of_steps {path : Path} {before : List Component} (single : slash ∉ part)
    (nonempty : part ≠ []) (other : part ≠ dot)
    (ended : path.components = before ++ (Path.mk part).steps) :
    path.fileName? = nameOfPart? part := by
  rw [steps_of_single single] at ended
  by_cases above : part = dotDot
  · have step : componentOfPart part = some .parent := by
      rw [above]
      decide
    have nameless : IsNameless part := .inr (.inr above)
    rw [step, Option.toList_some] at ended
    rw [fileName?, ended, List.getLast?_concat, nameOfPart?, if_pos nameless]
  · have step : componentOfPart part = some (.name part) := by
      simp [componentOfPart, nonempty, other, above]
    have named : ¬ IsNameless part := by simp [IsNameless, nonempty, other, above]
    rw [step, Option.toList_some] at ended
    rw [fileName?, ended, List.getLast?_concat, nameOfPart?, if_neg named]

/-- A path without slashes has the name that it gives as a part. -/
theorem fileName?_of_single (single : slash ∉ part) :
    (Path.mk part).fileName? = nameOfPart? part := by
  by_cases nothing : part = []
  · rw [nothing]
    decide
  · by_cases explicit : part = dot
    · rw [explicit]
      decide
    · exact fileName?_of_steps single nothing explicit rfl

/-- After a slash, a part that is neither empty nor a dot gives the name. -/
theorem fileName?_append_slash (single : slash ∉ part) (nonempty : part ≠ [])
    (other : part ≠ dot) : (Path.mk (front ++ slash :: part)).fileName? = nameOfPart? part :=
  fileName?_of_steps single nonempty other (components_append_slash front part)

/-- Where nothing is left to remove, the last part gives the name. -/
theorem fileName?_of_final {bytes : Bytes} (unslashed : ¬ [slash] <:+ bytes)
    (undotted : ¬ slash :: dot <:+ bytes) :
    (Path.mk bytes).fileName? = nameOfPart? (lastPart bytes) := by
  obtain ⟨single, alone | ⟨front, split⟩⟩ := exists_lastPart bytes
  · rw [← alone] at single ⊢
    exact fileName?_of_single single
  · generalize lastPart bytes = part at single split ⊢
    subst split
    have nonempty : part ≠ [] := by
      rintro rfl
      exact unslashed (List.suffix_append front [slash])
    have other : part ≠ dot := by
      rintro rfl
      exact undotted (List.suffix_append front (slash :: dot))
    exact fileName?_append_slash single nonempty other

/-- The name at the end of a path is the last part of its trimmed bytes, unless that part is
nameless. -/
theorem fileName?_eq (bytes : Bytes) :
    (Path.mk bytes).fileName? = nameOfPart? (lastPart (trimmed bytes)) := by
  obtain ⟨unslashed, undotted⟩ := not_suffix_trimmed bytes
  calc
    (Path.mk bytes).fileName? = (Path.mk (trimmed bytes)).fileName? :=
      (fileName?_trimmed bytes).symm
    _ = nameOfPart? (lastPart (trimmed bytes)) := fileName?_of_final unslashed undotted

end Backtrace.Path
