import Backtrace.Text.Lines

/-!
# Lines of joined texts

A text is a last line without a line feed, or a line, a line feed and a text. Where one text ends
with a whole line, the lines of a text after it follow its own lines; so a text can be made up of
lines, each ended by a line feed, and is read back line by line.
-/

namespace Backtrace.Text

/-- What holds of texts without a line feed, and of a line before a text whenever it holds of
that text, holds of every text. -/
theorem line_induction {motive : Text → Prop} (last : ∀ line, '\n' ∉ line → motive line)
    (more : ∀ line rest, '\n' ∉ line → motive rest → motive (line ++ '\n' :: rest))
    (text : Text) : motive text := by
  induction size : text.length using Nat.strongRecOn generalizing text with
  | _ size shorter =>
    subst size
    by_cases feed : '\n' ∈ text
    · obtain ⟨line, rest, rfl, single⟩ := List.eq_append_cons_of_mem feed
      have fewer : rest.length < (line ++ '\n' :: rest).length := by
        rw [List.length_append, List.length_cons]
        omega
      exact more line rest single (shorter rest.length fewer rest rfl)
    · exact last text feed

/-- What a carriage return at the end of a text does not change is the same without it. -/
theorem apply_dropReturn {α : Type} {read : Text → α}
    (unchanged : ∀ front, read (front ++ ['\r']) = read front) (text : Text) :
    read text.dropReturn = read text := by
  unfold dropReturn
  split
  · rename_i last
    obtain ⟨front, rfl⟩ := List.getLast?_eq_some_iff.1 last
    rw [List.dropLast_concat, unchanged]
  · rfl

/-- A text without blanks is on one line. -/
theorem lineFeed_not_mem_of_unbroken {text : Text} (unbroken : Unbroken text) : '\n' ∉ text :=
  fun inside => absurd (unbroken '\n' inside) (by decide)

/-- A text after which a line starts: an empty one, or one that ends with a line feed. -/
def AtLineStart (text : Text) : Prop := text = [] ∨ text.getLast? = some '\n'

instance (text : Text) : Decidable (AtLineStart text) := inferInstanceAs (Decidable (_ ∨ _))

/-- A line starts after every line feed. -/
theorem atLineStart_lineFeed (text : Text) : AtLineStart (text ++ ['\n']) :=
  .inr List.getLast?_concat

/-- Whole lines may stand in front of a text after which a line starts. -/
theorem AtLineStart.after_line {text : Text} (start : AtLineStart text) (line : Text) :
    AtLineStart (line ++ '\n' :: text) := by
  rcases start with rfl | ended
  · exact atLineStart_lineFeed line
  · obtain ⟨front, rfl⟩ := List.getLast?_eq_some_iff.1 ended
    have grouped : line ++ '\n' :: (front ++ ['\n']) = line ++ '\n' :: front ++ ['\n'] := by simp
    rw [grouped]
    exact atLineStart_lineFeed _

/-- Every text consists of whole lines and the start of one more. -/
theorem exists_line_end (text : Text) :
    ∃ before line, text = before ++ line ∧ AtLineStart before ∧ '\n' ∉ line := by
  induction text using line_induction with
  | last line single => exact ⟨[], line, rfl, .inl rfl, single⟩
  | more line rest _ ih =>
    obtain ⟨before, unfinished, rfl, start, single⟩ := ih
    exact ⟨line ++ '\n' :: before, unfinished, by simp, start.after_line line, single⟩

/-- The lines before a line feed and those after it are the lines of the text. -/
theorem lines_lineFeed (before after : Text) :
    lines (before ++ '\n' :: after) = lines (before ++ ['\n']) ++ lines after := by
  induction before using line_induction with
  | last line single =>
    rw [lines_append_lineFeed single, lines_append_lineFeed single, lines_nil]
    rfl
  | more line rest single ih =>
    rw [List.append_assoc, List.append_assoc, List.cons_append, List.cons_append,
      lines_append_lineFeed single, lines_append_lineFeed single, ih, List.cons_append]

/-- Where a line starts, the lines of a text may be taken part by part. -/
theorem lines_append {before : Text} (start : AtLineStart before) (after : Text) :
    lines (before ++ after) = lines before ++ lines after := by
  rcases start with rfl | ended
  · rw [lines_nil]
    rfl
  · obtain ⟨front, rfl⟩ := List.getLast?_eq_some_iff.1 ended
    rw [List.append_assoc, List.singleton_append, lines_lineFeed]

/-- Lines that are each ended by a line feed are read back, without carriage returns at their
ends, before the lines of what follows them. -/
theorem lines_flatMap_append {finished : List Text} (single : ∀ line ∈ finished, '\n' ∉ line)
    (rest : Text) :
    lines (finished.flatMap (· ++ ['\n']) ++ rest) = finished.map dropReturn ++ lines rest := by
  induction finished with
  | nil => rfl
  | cons line others ih =>
    have first : '\n' ∉ line := single line List.mem_cons_self
    have later : ∀ other ∈ others, '\n' ∉ other :=
      fun other inside => single other (List.mem_cons_of_mem _ inside)
    rw [List.flatMap_cons, List.append_assoc, List.append_assoc, List.singleton_append,
      lines_append_lineFeed first, ih later]
    rfl

/-- No line holds a line feed. -/
theorem lineFeed_not_mem_of_mem_lines {text line : Text} (inside : line ∈ lines text) :
    '\n' ∉ line := by
  induction text using line_induction with
  | last whole single =>
    by_cases nothing : whole = []
    · simp [nothing] at inside
    · rw [lines_of_single nothing single, List.mem_singleton] at inside
      rw [inside]
      exact single
  | more first rest single ih =>
    rw [lines_append_lineFeed single] at inside
    rcases List.mem_cons.1 inside with rfl | later
    · unfold dropReturn
      split
      · exact fun feed => single (List.dropLast_subset first feed)
      · exact single
    · exact ih later

end Backtrace.Text
