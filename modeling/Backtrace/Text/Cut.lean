import Backtrace.Text.Blank

/-!
# Cutting text at a mark

The text before and after the first occurrence of a character.
-/

namespace Backtrace.Text

/-- What precedes and what follows the first mark in a text. -/
def cut? (mark : Char) : Text → Option (Text × Text)
  | [] => none
  | first :: rest =>
    if first = mark then some ([], rest)
    else (cut? mark rest).map fun parts => (first :: parts.1, parts.2)

/-- A text is cut at its first mark, and only there. -/
theorem cut?_eq_some_iff {mark : Char} {text before after : Text} :
    cut? mark text = some (before, after) ↔ text = before ++ mark :: after ∧ mark ∉ before := by
  induction text generalizing before with
  | nil => simp [cut?]
  | cons first rest ih =>
    by_cases here : first = mark
    · subst here
      cases before with
      | nil => simp [cut?, eq_comm]
      | cons other others =>
        simp only [cut?, if_true, Option.some.injEq, Prod.mk.injEq, List.cons_append,
          List.cons.injEq, List.mem_cons]
        constructor
        · rintro ⟨none, -⟩
          simp at none
        · rintro ⟨⟨rfl, -⟩, absent⟩
          simp at absent
    · simp only [cut?, if_neg here, Option.map_eq_some_iff, Prod.mk.injEq, Prod.exists]
      constructor
      · rintro ⟨front, back, split, rfl, rfl⟩
        obtain ⟨rfl, absent⟩ := ih.1 split
        exact ⟨rfl, by simp [absent, Ne.symm here]⟩
      · rintro ⟨same, absent⟩
        cases before with
        | nil => simp [here] at same
        | cons other others =>
          obtain ⟨rfl, rfl⟩ := List.cons.inj same
          exact ⟨others, after, ih.2 ⟨rfl, fun inside => absent (by simp [inside])⟩, rfl, rfl⟩

/-- Texts that are the same are the same before the first mark and after it. -/
theorem eq_of_append_mark_eq {mark : Char} {left right front back : Text} (first : mark ∉ left)
    (other : mark ∉ front) (same : left ++ mark :: right = front ++ mark :: back) :
    left = front ∧ right = back := by
  have cut : cut? mark (left ++ mark :: right) = some (left, right) :=
    cut?_eq_some_iff.2 ⟨rfl, first⟩
  rw [cut?_eq_some_iff.2 ⟨same, other⟩] at cut
  obtain ⟨rfl, rfl⟩ := Prod.mk.inj (Option.some.inj cut)
  exact ⟨rfl, rfl⟩

/-- A text without the mark is not cut. -/
theorem cut?_eq_none_iff {mark : Char} {text : Text} : cut? mark text = none ↔ mark ∉ text := by
  induction text with
  | nil => simp [cut?]
  | cons first rest ih =>
    by_cases here : first = mark
    · simp [cut?, here]
    · simp [cut?, here, ih, Ne.symm here]

end Backtrace.Text
