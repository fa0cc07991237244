import Backtrace.Proofs.Text.Words

/-!
# What trimming leaves

A text is blanks, an inside that neither starts nor ends with a blank, and blanks; the inside is
what trimming leaves, and no other text fits between blanks in this way.
-/

namespace Backtrace.Text

/-- A text without a blank at either end. -/
structure Trimmed (text : Text) : Prop where
  /-- The first character is no blank. -/
  first : ∀ character ∈ text.head?, isBlank character = false
  /-- The last character is no blank. -/
  last : ∀ character ∈ text.getLast?, isBlank character = false

/-- A text without blanks has none at its ends. -/
theorem trimmed_of_unbroken {text : Text} (unbroken : Unbroken text) : Trimmed text where
  first character head := unbroken character (List.mem_of_mem_head? head)
  last character final := unbroken character (List.mem_of_mem_getLast? final)

/-- Blanks at the front are trimmed off the start. -/
theorem trimStart_append {blanks : Text} (blank : AllBlank blanks) (text : Text) :
    trimStart (blanks ++ text) = trimStart text :=
  List.dropWhile_append_of_pos blank

/-- A text that does not start with a blank keeps its start. -/
theorem trimStart_of_first {text : Text}
    (first : ∀ character ∈ text.head?, isBlank character = false) : trimStart text = text := by
  cases text with
  | nil => rfl
  | cons character rest =>
    have visible : isBlank character = false := first character rfl
    rw [trimStart, List.dropWhile_cons_of_neg (by simp [visible])]

/-- A text that does not end with a blank keeps its end. -/
theorem trimEnd_of_last {text : Text}
    (last : ∀ character ∈ text.getLast?, isBlank character = false) : trimEnd text = text := by
  have reversed : ∀ character ∈ text.reverse.head?, isBlank character = false := by
    rw [List.head?_reverse]
    exact last
  rw [trimEnd]
  exact (congrArg List.reverse (trimStart_of_first reversed)).trans (List.reverse_reverse text)

/-- A text of blanks is trimmed to nothing. -/
theorem trim_of_allBlank {blanks : Text} (blank : AllBlank blanks) : trim blanks = [] := by
  have nothing := trimStart_append blank []
  rw [List.append_nil] at nothing
  rw [trim, nothing]
  rfl

/-- What stands between blanks is what trimming leaves. -/
theorem trim_append {before inside after : Text} (leading : AllBlank before)
    (trailing : AllBlank after) (trimmed : Trimmed inside) :
    trim (before ++ inside ++ after) = inside := by
  cases inside with
  | nil =>
    rw [List.append_nil]
    apply trim_of_allBlank
    intro character found
    exact (List.mem_append.1 found).elim (leading character) (trailing character)
  | cons first rest =>
    have start : trimStart (first :: rest ++ after) = first :: rest ++ after :=
      trimStart_of_first fun character head => trimmed.first character head
    rw [trim, List.append_assoc, trimStart_append leading, start, trimEnd_append trailing,
      trimEnd_of_last trimmed.last]

/-- What is trimmed off the start are blanks, and no blank follows them. -/
theorem exists_trimStart (text : Text) :
    ∃ before, text = before ++ trimStart text ∧ AllBlank before ∧
      ∀ character ∈ (trimStart text).head?, isBlank character = false := by
  refine ⟨text.takeWhile isBlank, List.takeWhile_append_dropWhile.symm, ?_, ?_⟩
  · exact fun character found => List.mem_takeWhile_imp found
  · intro character head
    have stopped := List.head?_dropWhile_not isBlank text
    rw [trimStart, Option.mem_def] at head
    rw [head] at stopped
    simpa using stopped

/-- What is trimmed off the end are blanks, and no blank precedes them. -/
theorem exists_trimEnd (text : Text) :
    ∃ after, text = trimEnd text ++ after ∧ AllBlank after ∧
      ∀ character ∈ (trimEnd text).getLast?, isBlank character = false := by
  obtain ⟨before, split, blank, first⟩ := exists_trimStart text.reverse
  have mirrored : trimEnd text = (trimStart text.reverse).reverse := rfl
  refine ⟨before.reverse, ?_, fun character found => blank character (List.mem_reverse.1 found), ?_⟩
  · rw [mirrored, ← List.reverse_append, ← split, List.reverse_reverse]
  · rw [mirrored, List.getLast?_reverse]
    exact first

/-- Every text is blanks, what trimming leaves, and blanks. -/
theorem exists_trim (text : Text) :
    ∃ before after, text = before ++ trim text ++ after ∧ AllBlank before ∧ AllBlank after ∧
      Trimmed (trim text) := by
  obtain ⟨before, split, leading, first⟩ := exists_trimStart text
  obtain ⟨after, rest, trailing, last⟩ := exists_trimEnd (trimStart text)
  refine ⟨before, after, ?_, leading, trailing, ?_, last⟩
  · rw [List.append_assoc, trim, ← rest, ← split]
  · intro character head
    have head : (trimEnd (trimStart text)).head? = some character := head
    apply first character
    rw [rest, List.head?_append, head]
    rfl

/-- Blanks before a text are trimmed off. -/
theorem trim_allBlank_append {blanks : Text} (blank : AllBlank blanks) (text : Text) :
    trim (blanks ++ text) = trim text := by
  rw [trim, trimStart_append blank, trim]

/-- Blanks after a text are trimmed off. -/
theorem trim_append_allBlank {blanks : Text} (blank : AllBlank blanks) (text : Text) :
    trim (text ++ blanks) = trim text := by
  obtain ⟨before, after, split, leading, trailing, trimmed⟩ := exists_trim text
  have whole : AllBlank (after ++ blanks) := fun character found =>
    (List.mem_append.1 found).elim (trailing character) (blank character)
  calc
    trim (text ++ blanks) = trim (before ++ trim text ++ (after ++ blanks)) := by
      rw [← List.append_assoc, ← split]
    _ = trim text := trim_append leading whole trimmed

end Backtrace.Text
