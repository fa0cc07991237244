import Backtrace.Frame
import Backtrace.Proofs.Frame.Spelling
import Backtrace.Proofs.Text.Words

/-!
# The two shapes of a frame line

A frame line is a blank and the address to resolve, or a blank, a first word, and the address to
resolve in parentheses as the second word; blanks may follow. The first word of the second shape
only has to start as an address does. The laws say that lines of both shapes are frames and that
every frame line has one of them.
-/

namespace Backtrace.Frame

/-- What stands after the first word of a line that gives a link-time address: blanks, the
address in parentheses, and perhaps blanks. -/
def IsLinkPart (address : Address) (text : Text) : Prop :=
  ∃ before after, text = before ++ '(' :: (address.spelling ++ ')' :: after) ∧ before ≠ [] ∧
    Text.AllBlank before ∧ Text.AllBlank after

/-- How the run-time address of a frame line starts. -/
def mark : Text := ['0', 'x']

/-- A word after the blank opens a frame line exactly if it starts as an address does. -/
theorem opening_prefix_cons_iff {text : Text} : opening <+: ' ' :: text ↔ mark <+: text :=
  List.prefix_cons_inj ' '

/-- An address in parentheses has no blank in it. -/
theorem unbroken_enclosed (address : Address) :
    Text.Unbroken ('(' :: (address.spelling ++ [')'])) := by
  intro character inside
  rcases List.mem_cons.1 inside with rfl | inside
  · decide
  rcases List.mem_append.1 inside with inside | last
  · exact address.unbroken_spelling character inside
  · rw [List.mem_singleton.1 last]
    decide

/-- A link part has one word, the address in parentheses. -/
theorem words_of_isLinkPart {address : Address} {text : Text} (link : IsLinkPart address text) :
    text.words = ['(' :: (address.spelling ++ [')'])] := by
  obtain ⟨before, after, rfl, -, leading, trailing⟩ := link
  have grouped : '(' :: (address.spelling ++ ')' :: after) =
      '(' :: (address.spelling ++ [')']) ++ after := by simp
  rw [Text.words_allBlank_append leading, grouped,
    Text.words_append_isolated (by simp) (unbroken_enclosed address)
      (Text.isolated_of_allBlank trailing),
    Text.words_of_allBlank trailing]

/-- A link part starts with a blank. -/
theorem isolated_of_isLinkPart {address : Address} {text : Text}
    (link : IsLinkPart address text) : Text.Isolated text := by
  obtain ⟨before, after, rfl, nonempty, leading, -⟩ := link
  obtain ⟨first, rest, rfl⟩ := List.exists_cons_of_ne_nil nonempty
  intro character head
  obtain rfl := Option.some.inj head
  exact leading first (by simp)

/-- A blank, an address with a small mark, and blanks are a frame line. -/
theorem address?_of_alone {address : Address} {blanks : Text}
    (lower : mark <+: address.spelling) (blank : Text.AllBlank blanks) :
    address? (' ' :: (address.spelling ++ blanks)) = some address := by
  have opens : opening <+: ' ' :: (address.spelling ++ blanks) :=
    opening_prefix_cons_iff.2 (lower.trans (List.prefix_append _ _))
  have words : Text.words (' ' :: (address.spelling ++ blanks)) = [address.spelling] := by
    rw [Text.words_cons_blank (by decide),
      Text.words_append_isolated address.spelling_ne_nil address.unbroken_spelling
        (Text.isolated_of_allBlank blank),
      Text.words_of_allBlank blank]
  rw [address?, if_pos (List.isPrefixOf_iff_prefix.2 opens), candidate?, words]
  exact address.parse?_spelling

/-- A blank, a word that starts as an address does, and a link part are a frame line. -/
theorem address?_of_linked {address : Address} {word part : Text} (starts : mark <+: word)
    (unbroken : Text.Unbroken word) (link : IsLinkPart address part) :
    address? (' ' :: (word ++ part)) = some address := by
  have opens : opening <+: ' ' :: (word ++ part) :=
    opening_prefix_cons_iff.2 (starts.trans (List.prefix_append _ _))
  have nonempty : word ≠ [] := by
    rintro rfl
    simp [mark] at starts
  have words : Text.words (' ' :: (word ++ part)) =
      [word, '(' :: (address.spelling ++ [')'])] := by
    rw [Text.words_cons_blank (by decide),
      Text.words_append_isolated nonempty unbroken (isolated_of_isLinkPart link),
      words_of_isLinkPart link]
  have inside : Text.enclosed? '(' ')' ('(' :: (address.spelling ++ [')'])) =
      some address.spelling := Text.enclosed?_eq_some_iff.2 rfl
  rw [address?, if_pos (List.isPrefixOf_iff_prefix.2 opens), candidate?, words]
  change (Text.enclosed? '(' ')' _).bind Address.parse? = _
  rw [inside]
  exact address.parse?_spelling

/-- The first word of a line that opens as frames do follows the one blank at its start. -/
theorem exists_first_word_of_opening {line word : Text} {others : List Text}
    (opens : opening <+: line) (split : line.words = word :: others) :
    ∃ after, line = ' ' :: (word ++ after) ∧ mark <+: word ∧ Text.Unbroken word ∧
      Text.Isolated after ∧ Text.words after = others := by
  obtain ⟨rest, rfl⟩ := opens
  change Text.words (' ' :: (mark ++ rest)) = _ at split
  rw [Text.words_cons_blank (by decide)] at split
  obtain ⟨after, whole, found⟩ :=
    Text.exists_first_word_of_unbroken (by decide) (by decide) split
  exact ⟨after, congrArg (' ' :: ·) whole, found⟩

/-- A text whose only word is an address in parentheses is a link part after a word. -/
theorem isLinkPart_of_words {address : Address} {text : Text} (isolated : Text.Isolated text)
    (single : text.words = ['(' :: (address.spelling ++ [')'])]) : IsLinkPart address text := by
  obtain ⟨before, after, rfl, blank, -, -, none⟩ := Text.exists_first_word single
  refine ⟨before, after, by simp, ?_, blank, Text.allBlank_of_words_eq_nil none⟩
  rintro rfl
  exact absurd (isolated '(' rfl) (by decide)

/-- Every frame line is a blank and the address with blanks after it, or a blank, a first word
and a link part with the address. -/
theorem shape_of_address? {address : Address} {line : Text}
    (found : address? line = some address) :
    (∃ blanks, line = ' ' :: (address.spelling ++ blanks) ∧ Text.AllBlank blanks) ∨
      ∃ word part, line = ' ' :: (word ++ part) ∧ mark <+: word ∧ Text.Unbroken word ∧
        IsLinkPart address part := by
  unfold address? at found
  split at found
  case isFalse => simp at found
  case isTrue opens =>
    rw [List.isPrefixOf_iff_prefix] at opens
    obtain ⟨candidate, chosen, parsed⟩ := Option.bind_eq_some_iff.1 found
    obtain rfl := Address.parse?_eq_some_iff.1 parsed
    unfold candidate? at chosen
    split at chosen
    · rename_i only words
      obtain rfl := Option.some.inj chosen
      obtain ⟨after, rfl, -, -, -, none⟩ := exists_first_word_of_opening opens words
      exact .inl ⟨after, rfl, Text.allBlank_of_words_eq_nil none⟩
    · rename_i first second words
      obtain rfl := Text.enclosed?_eq_some_iff.1 chosen
      obtain ⟨after, rfl, starts, unbroken, isolated, last⟩ :=
        exists_first_word_of_opening opens words
      exact .inr ⟨first, after, rfl, starts, unbroken, isLinkPart_of_words isolated last⟩
    · simp at chosen

end Backtrace.Frame
