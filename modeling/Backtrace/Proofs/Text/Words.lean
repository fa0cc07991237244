import Backtrace.Text.Blank
import Mathlib.Data.List.TakeWhile

/-!
# Where words stand in a text

The words of a text determine how it is made up: the first word stands after blanks only, and
what follows it is empty or starts with a blank. Read in the other direction, a text made up in
this way has that first word and the words of the rest.
-/

namespace Backtrace.Text

/-- What can follow a word: nothing, or a text that starts with a blank. -/
def Isolated (text : Text) : Prop := ∀ character ∈ text.head?, isBlank character = true

/-- Blanks at the front belong to no word. -/
theorem words_allBlank_append {blanks : Text} (blank : AllBlank blanks) (text : Text) :
    words (blanks ++ text) = words text := by
  induction blanks with
  | nil => rfl
  | cons first rest ih =>
    rw [List.cons_append, words_cons_blank (blank first (by simp))]
    exact ih fun character inside => blank character (by simp [inside])

/-- Blanks are isolated. -/
theorem isolated_of_allBlank {blanks : Text} (blank : AllBlank blanks) : Isolated blanks :=
  fun character first => blank character (List.mem_of_mem_head? first)

/-- A text without blanks before an isolated text is its first word. -/
theorem words_append_isolated {word after : Text} (nonempty : word ≠ [])
    (unbroken : Unbroken word) (isolated : Isolated after) :
    words (word ++ after) = word :: words after := by
  cases after with
  | nil => rw [List.append_nil, words_of_unbroken nonempty unbroken, words_nil]
  | cons blank rest =>
    have separates : isBlank blank = true := isolated blank rfl
    rw [words_append_blank separates, words_of_unbroken nonempty unbroken,
      words_cons_blank separates]
    rfl

/-- A text consists of its first characters that are not blank and an isolated text. -/
theorem exists_unbroken_append (text : Text) :
    ∃ word after, text = word ++ after ∧ Unbroken word ∧ Isolated after := by
  refine ⟨text.takeWhile (!isBlank ·), text.dropWhile (!isBlank ·),
    List.takeWhile_append_dropWhile.symm, ?_, ?_⟩
  · intro character inside
    simpa using List.mem_takeWhile_imp inside
  · intro character first
    have stopped := List.head?_dropWhile_not (!isBlank ·) text
    rw [Option.mem_def.1 first] at stopped
    simpa using stopped

/-- A text is blank throughout or has a first word, after blanks only. -/
theorem allBlank_or_first_word (text : Text) :
    AllBlank text ∨ ∃ before word after, text = before ++ word ++ after ∧ AllBlank before ∧
      word ≠ [] ∧ Unbroken word ∧ Isolated after := by
  induction text with
  | nil => exact .inl (by simp [AllBlank])
  | cons first rest ih =>
    by_cases blank : isBlank first = true
    · have onward : ∀ before, AllBlank before → AllBlank (first :: before) := by
        intro before blanks character inside
        rcases List.mem_cons.1 inside with rfl | inside
        · exact blank
        · exact blanks character inside
      rcases ih with blanks | ⟨before, word, after, rfl, blanks, found⟩
      · exact .inl (onward rest blanks)
      · exact .inr ⟨first :: before, word, after, rfl, onward before blanks, found⟩
    · obtain ⟨start, after, rfl, unbroken, isolated⟩ := exists_unbroken_append rest
      refine .inr ⟨[], first :: start, after, rfl, by simp [AllBlank], by simp, ?_, isolated⟩
      intro character inside
      rcases List.mem_cons.1 inside with rfl | inside
      · simpa using blank
      · exact unbroken character inside

/-- The first word of a text stands after blanks, and an isolated text with the other words
follows it. -/
theorem exists_first_word {text word : Text} {others : List Text}
    (split : words text = word :: others) :
    ∃ before after, text = before ++ word ++ after ∧ AllBlank before ∧ Unbroken word ∧
      Isolated after ∧ words after = others := by
  rcases allBlank_or_first_word text with blank | ⟨before, found, after, rfl, blank, nonempty,
    unbroken, isolated⟩
  · rw [words_of_allBlank blank] at split
    simp at split
  · rw [List.append_assoc, words_allBlank_append blank,
      words_append_isolated nonempty unbroken isolated] at split
    obtain ⟨rfl, rfl⟩ := List.cons.inj split
    exact ⟨before, after, rfl, blank, unbroken, isolated, rfl⟩

/-- Where a text starts without a blank, its first word starts so too. -/
theorem exists_first_word_of_unbroken {front rest word : Text} {others : List Text}
    (nonempty : front ≠ []) (unbroken : Unbroken front)
    (split : words (front ++ rest) = word :: others) :
    ∃ after, front ++ rest = word ++ after ∧ front <+: word ∧ Unbroken word ∧ Isolated after ∧
      words after = others := by
  obtain ⟨more, after, rfl, clear, isolated⟩ := exists_unbroken_append rest
  have whole : Unbroken (front ++ more) := by
    intro character inside
    rcases List.mem_append.1 inside with inside | inside
    · exact unbroken character inside
    · exact clear character inside
  rw [← List.append_assoc, words_append_isolated (by simp [nonempty]) whole isolated] at split
  obtain ⟨rfl, rfl⟩ := List.cons.inj split
  exact ⟨after, by simp, List.prefix_append front more, whole, isolated, rfl⟩

/-- Only a text of blanks has no words. -/
theorem allBlank_of_words_eq_nil {text : Text} (wordless : words text = []) : AllBlank text := by
  rcases allBlank_or_first_word text with blank | ⟨before, found, after, rfl, blank, nonempty,
    unbroken, isolated⟩
  · exact blank
  · rw [List.append_assoc, words_allBlank_append blank,
      words_append_isolated nonempty unbroken isolated] at wordless
    simp at wordless

end Backtrace.Text
