import Backtrace.Text.Blank

/-!
# Enclosed text

The inside of a text between an opening and a closing character. One character alone encloses
nothing, even where it is both.
-/

namespace Backtrace.Text

/-- The text between the given first and last characters, which are two separate ones. -/
def enclosed? (opening closing : Char) : Text → Option Text
  | [] => none
  | first :: rest =>
    if first = opening ∧ rest.getLast? = some closing then some rest.dropLast else none

/-- Exactly the texts with both characters around an inside are enclosed. -/
theorem enclosed?_eq_some_iff {opening closing : Char} {text inside : Text} :
    enclosed? opening closing text = some inside ↔ text = opening :: (inside ++ [closing]) := by
  cases text with
  | nil => simp [enclosed?]
  | cons first rest =>
    simp only [enclosed?, Option.ite_none_right_eq_some, Option.some.injEq, List.cons.injEq]
    constructor
    · rintro ⟨⟨rfl, last⟩, rfl⟩
      obtain ⟨inside, rfl⟩ := List.getLast?_eq_some_iff.1 last
      simp
    · rintro ⟨rfl, rfl⟩
      simp

end Backtrace.Text
