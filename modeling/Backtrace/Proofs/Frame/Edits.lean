import Backtrace.Proofs.Frame.Shape
import Backtrace.Proofs.Text.Lines
import Backtrace.Proofs.Trace.WholeText

/-!
# Edits that frames do not show

A capture can be edited without a change to its frames: lines of noise come and go, line ends and
blanks before them differ from one terminal to another, and an image that is loaded elsewhere has
other run-time addresses. Each of these edits keeps the addresses of the text, in order; only the
inserted lines are counted.
-/

namespace Backtrace.Frame

open Text

/-- Blanks after a line change nothing about its frame. -/
theorem address?_append_allBlank {blanks : Text} (blank : AllBlank blanks) (line : Text) :
    address? (line ++ blanks) = address? line := by
  induction blanks generalizing line with
  | nil => rw [List.append_nil]
  | cons first rest ih =>
    have separates : isBlank first = true := blank first List.mem_cons_self
    have others : AllBlank rest := fun character inside =>
      blank character (List.mem_cons_of_mem _ inside)
    rw [List.append_cons, ih others, address?_append_blank separates]

/-- A changed line whose frame stays what it was. -/
inductive LineChange : Text → Text → Prop where
  /-- Blanks come in where only blanks follow on the line. -/
  | blanks {front added tail : Text} (blank : AllBlank added) (single : '\n' ∉ added)
      (trailing : AllBlank tail) : LineChange (front ++ tail) (front ++ added ++ tail)
  /-- The first of the two words of a frame line becomes another word that starts as an address
  does. -/
  | firstWord {word second part other : Text}
      (accepted : (address? (' ' :: (word ++ part))).isSome)
      (split : words (' ' :: (word ++ part)) = [word, second]) (starts : mark <+: other)
      (unbroken : Unbroken other) : LineChange (' ' :: (word ++ part)) (' ' :: (other ++ part))
  /-- The only word of a frame line goes into parentheses, after a word that starts as an address
  does. -/
  | relocated {address : Address} {blanks other : Text}
      (accepted : address? (' ' :: (address.spelling ++ blanks)) = some address)
      (blank : AllBlank blanks) (starts : mark <+: other) (unbroken : Unbroken other) :
      LineChange (' ' :: (address.spelling ++ blanks))
        (' ' :: (other ++ ' ' :: '(' :: (address.spelling ++ ')' :: blanks)))

/-- A line that holds an address alone has one word. -/
theorem words_of_alone {address : Address} {blanks : Text} (blank : AllBlank blanks) :
    words (' ' :: (address.spelling ++ blanks)) = [address.spelling] := by
  rw [words_cons_blank (by decide),
    words_append_isolated address.spelling_ne_nil address.unbroken_spelling
      (isolated_of_allBlank blank), words_of_allBlank blank]

/-- The first word of a line with a link part stands before that part. -/
theorem words_of_linked {address : Address} {word part : Text} (starts : mark <+: word)
    (unbroken : Unbroken word) (link : IsLinkPart address part) :
    words (' ' :: (word ++ part)) = [word, '(' :: (address.spelling ++ [')'])] := by
  have nonempty : word ≠ [] := by
    rintro rfl
    simp [mark] at starts
  rw [words_cons_blank (by decide),
    words_append_isolated nonempty unbroken (isolated_of_isLinkPart link),
    words_of_isLinkPart link]

/-- A frame line of two words is a blank, the first word and a link part. -/
theorem isLinkPart_of_two_words {address : Address} {word second part : Text}
    (accepted : address? (' ' :: (word ++ part)) = some address)
    (split : words (' ' :: (word ++ part)) = [word, second]) : IsLinkPart address part := by
  rcases shape_of_address? accepted with
    ⟨blanks, line, blank⟩ | ⟨first, link, line, starts, unbroken, linked⟩
  · rw [line, words_of_alone blank] at split
    simp at split
  · rw [line, words_of_linked starts unbroken linked] at split
    obtain ⟨rfl, -⟩ := List.cons.inj split
    have whole : first ++ part = first ++ link := (List.cons.inj line).2
    rw [List.append_cancel_left whole]
    exact linked

namespace LineChange

variable {line changed : Text}

/-- The frame of a changed line is what it was. -/
theorem address?_eq (change : LineChange line changed) : address? changed = address? line := by
  cases change with
  | blanks blank single trailing =>
    rw [address?_append_allBlank trailing, address?_append_allBlank trailing,
      address?_append_allBlank blank]
  | firstWord accepted split starts unbroken =>
    obtain ⟨address, found⟩ := Option.isSome_iff_exists.1 accepted
    rw [found]
    exact address?_of_linked starts unbroken (isLinkPart_of_two_words found split)
  | @relocated address blanks other accepted blank starts unbroken =>
    have link : IsLinkPart address (' ' :: '(' :: (address.spelling ++ ')' :: blanks)) :=
      ⟨[' '], blanks, rfl, by simp, by decide, blank⟩
    rw [accepted]
    exact address?_of_linked starts unbroken link

/-- A changed line is still one line. -/
theorem single_of_single (change : LineChange line changed) (single : '\n' ∉ line) :
    '\n' ∉ changed := by
  cases change with
  | blanks blank added trailing => simp_all
  | firstWord accepted split starts unbroken =>
    have clear := lineFeed_not_mem_of_unbroken unbroken
    simp_all
  | relocated accepted blank starts unbroken =>
    have clear := lineFeed_not_mem_of_unbroken unbroken
    simp_all

/-- A changed line is not empty if the line was not. -/
theorem ne_nil_of_ne_nil (change : LineChange line changed) (nonempty : line ≠ []) :
    changed ≠ [] := by
  cases change with
  | blanks blank added trailing => simp_all
  | firstWord => simp
  | relocated => simp

end LineChange

/-- What can stand after a line: its line feed, or nothing at the end of the text, where an empty
line is none. -/
def EndsLine (line after : Text) : Prop := after.head? = some '\n' ∨ after = [] ∧ line ≠ []

instance (line after : Text) : Decidable (EndsLine line after) :=
  inferInstanceAs (Decidable (_ ∨ _))

/-- One edit of a text that its frames do not show, with the number of lines that it inserts. -/
inductive Edit : Text → Text → Nat → Prop where
  /-- A line of noise is inserted where a line starts. -/
  | inserted {before noise after : Text} (start : AtLineStart before) (single : '\n' ∉ noise)
      (rejected : address? noise = none) :
      Edit (before ++ after) (before ++ noise ++ '\n' :: after) 1
  /-- A line feed becomes a carriage return and a line feed. -/
  | returned (before after : Text) :
      Edit (before ++ '\n' :: after) (before ++ '\r' :: '\n' :: after) 0
  /-- A line is changed in its place. -/
  | changed {before line other after : Text} (start : AtLineStart before)
      (single : '\n' ∉ line) (ended : EndsLine line after) (change : LineChange line other) :
      Edit (before ++ line ++ after) (before ++ other ++ after) 0

/-- Any number of edits, with the number of lines that they insert. -/
inductive Edits : Text → Text → Nat → Prop where
  /-- Nothing is edited. -/
  | none (text : Text) : Edits text text 0
  /-- One more edit. -/
  | more {text between edited : Text} {count inserted : Nat} (earlier : Edits text between count)
      (last : Edit between edited inserted) : Edits text edited (count + inserted)

/-- The frames of a text, line by line, around one line in its place. -/
theorem map_address?_lines {before line after : Text} (start : AtLineStart before)
    (single : '\n' ∉ line) (ended : EndsLine line after) :
    (lines (before ++ line ++ after)).map address? =
      (lines before).map address? ++ address? line :: (lines after.tail).map address? := by
  rw [List.append_assoc, lines_append start, List.map_append]
  rcases ended with feed | ⟨rfl, nonempty⟩
  · obtain ⟨rest, rfl⟩ := List.head?_eq_some_iff.1 feed
    rw [lines_append_lineFeed single, List.map_cons, address?_dropReturn]
    rfl
  · rw [List.append_nil, lines_of_single nonempty single]
    rfl

/-- A change of a line in its place keeps the frames line by line. -/
theorem map_address?_lines_of_change {before line other after : Text} (start : AtLineStart before)
    (single : '\n' ∉ line) (ended : EndsLine line after) (change : LineChange line other) :
    (lines (before ++ other ++ after)).map address? =
      (lines (before ++ line ++ after)).map address? := by
  have still : EndsLine other after :=
    ended.imp_right fun last => ⟨last.1, change.ne_nil_of_ne_nil last.2⟩
  rw [map_address?_lines start single ended,
    map_address?_lines start (change.single_of_single single) still, change.address?_eq]

/-- The addresses of a text are what its lines give, one after the other. -/
theorem addresses_eq_filterMap (text : Text) :
    addresses text = (text.lines.map address?).filterMap id := by
  rw [List.filterMap_map]
  rfl

/-- An edit keeps the addresses of the text and adds the inserted lines. -/
theorem addresses_of_edit {text edited : Text} {inserted : Nat}
    (edit : Edit text edited inserted) :
    addresses edited = addresses text ∧ edited.lines.length = text.lines.length + inserted := by
  have settle (same : edited.lines.map address? = text.lines.map address?) :
      addresses edited = addresses text ∧ edited.lines.length = text.lines.length + 0 := by
    rw [addresses_eq_filterMap, addresses_eq_filterMap, same]
    exact ⟨rfl, by simpa using congrArg List.length same⟩
  cases edit with
  | @inserted before noise after start single rejected =>
    have shown : (lines (before ++ noise ++ '\n' :: after)).map address? =
        (lines before).map address? ++ none :: (lines after).map address? := by
      rw [map_address?_lines start single (.inl rfl), rejected]
      rfl
    have length := congrArg List.length shown
    rw [addresses_eq_filterMap, addresses_eq_filterMap, shown, lines_append start,
      List.map_append, List.filterMap_append, List.filterMap_append]
    simp only [List.length_append, List.length_map, List.length_cons] at length ⊢
    exact ⟨rfl, by omega⟩
  | returned before after =>
    -- The carriage return is a blank at the end of the line that the line feed ends.
    obtain ⟨front, line, rfl, start, single⟩ := exists_line_end before
    have change : LineChange line (line ++ ['\r']) := by
      simpa using @LineChange.blanks line ['\r'] [] (by decide) (by decide) (by decide)
    have ended : EndsLine line ('\n' :: after) := .inl rfl
    apply settle
    simpa using map_address?_lines_of_change start single ended change
  | changed start single ended change =>
    exact settle (map_address?_lines_of_change start single ended change)

/-- Edits keep the addresses of the text and add the inserted lines. -/
theorem addresses_of_edits {text edited : Text} {inserted : Nat}
    (edits : Edits text edited inserted) :
    addresses edited = addresses text ∧ edited.lines.length = text.lines.length + inserted := by
  induction edits with
  | none => exact ⟨rfl, rfl⟩
  | more _ last ih =>
    obtain ⟨addresses, count⟩ := addresses_of_edit last
    exact ⟨addresses.trans ih.1, by omega⟩

end Backtrace.Frame
