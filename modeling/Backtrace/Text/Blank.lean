/-!
# Blank characters, trimming and words

A text is a list of characters. Blank characters are the `White_Space` characters of the Unicode
standard; they separate words and surround values. The laws here say where words split and that
no word is empty or holds a blank.
-/

namespace Backtrace

/-- A text is the sequence of its characters. -/
abbrev Text := List Char

namespace Text

/-- The characters with the Unicode property `White_Space`, given by code point. -/
def isBlank (character : Char) : Bool :=
  let point := character.toNat
  (0x09 ≤ point && point ≤ 0x0D) || point == 0x20 || point == 0x85 || point == 0xA0 ||
    point == 0x1680 || (0x2000 ≤ point && point ≤ 0x200A) || point == 0x2028 ||
    point == 0x2029 || point == 0x202F || point == 0x205F || point == 0x3000

/-- The line feed is blank. -/
theorem isBlank_lineFeed : isBlank '\n' = true := by decide

/-- A text of blank characters only. -/
def AllBlank (text : Text) : Prop := ∀ character ∈ text, isBlank character = true

instance (text : Text) : Decidable (AllBlank text) :=
  List.decidableBAll (isBlank · = true) text

/-- A text without blank characters. -/
def Unbroken (text : Text) : Prop := ∀ character ∈ text, isBlank character = false

instance (text : Text) : Decidable (Unbroken text) :=
  List.decidableBAll (isBlank · = false) text

/-- The text without the blank characters at its start. -/
def trimStart (text : Text) : Text := text.dropWhile isBlank

/-- The text without the blank characters at its end. -/
def trimEnd (text : Text) : Text := (text.reverse.dropWhile isBlank).reverse

/-- The text without the blank characters at either end. -/
def trim (text : Text) : Text := trimEnd (trimStart text)

/-- Blank characters after a text are trimmed from its end. -/
theorem trimEnd_append {text blanks : Text} (blank : AllBlank blanks) :
    trimEnd (text ++ blanks) = trimEnd text := by
  have dropped : ∀ front : Text, AllBlank front → ∀ rest : Text,
      (front ++ rest).dropWhile isBlank = rest.dropWhile isBlank := by
    intro front
    induction front with
    | nil => intro _ rest; rfl
    | cons first others step =>
      intro allBlank rest
      rw [List.cons_append, List.dropWhile_cons_of_pos (allBlank first (by simp))]
      exact step (fun character inside => allBlank character (by simp [inside])) rest
  unfold trimEnd
  rw [List.reverse_append,
    dropped _ (fun character inside => blank character (by simpa using inside))]

/-- The maximal runs of characters that are not blank, in order. -/
def words (text : Text) : List Text :=
  (text.splitOnP isBlank).filter (fun word => !word.isEmpty)

/-- The empty text has no words. -/
@[simp] theorem words_nil : words [] = [] := by simp [words]

/-- Words split at a blank. -/
theorem words_append_blank {blank : Char} (isolated : isBlank blank = true) (front back : Text) :
    words (front ++ blank :: back) = words front ++ words back := by
  unfold words
  rw [List.splitOnP_append_cons front back isolated, List.filter_append]

/-- A blank at the front belongs to no word. -/
theorem words_cons_blank {blank : Char} (isolated : isBlank blank = true) (text : Text) :
    words (blank :: text) = words text := by
  simpa using words_append_blank isolated [] text

/-- A text that is not empty and holds no blank is one word. -/
theorem words_of_unbroken {word : Text} (nonempty : word ≠ []) (unbroken : Unbroken word) :
    words word = [word] := by
  rw [words, List.splitOnP_eq_singleton fun character inside => unbroken character inside]
  simp [nonempty]

/-- A text of blanks has no words. -/
theorem words_of_allBlank {text : Text} (blank : AllBlank text) : words text = [] := by
  induction text with
  | nil => exact words_nil
  | cons first rest step =>
    rw [words_cons_blank (blank first (by simp))]
    exact step fun character inside => blank character (by simp [inside])

end Text
end Backtrace
