import Backtrace.Options
import Backtrace.Proofs.Text.Lines
import Backtrace.Proofs.Text.Trimming

/-!
# How assignments are spelled

A line of the options cache spells an assignment when it is a name, an equals sign and a value,
each with blanks around it; a value in quotes is spelled by its inside, and any other value by
itself. Reading a line finds exactly the assignment that it spells.
-/

namespace Backtrace

open Text

/-- The quotation marks of the options cache. -/
inductive Quote where
  | single
  | double
deriving DecidableEq

namespace Quote

/-- The character of a quotation mark. -/
def mark : Quote → Char
  | single => '\''
  | double => '"'

/-- A value between two marks. -/
def around (quote : Quote) (value : Text) : Text := quote.mark :: (value ++ [quote.mark])

/-- No blank is a quotation mark. -/
theorem isBlank_mark (quote : Quote) : isBlank quote.mark = false := by
  cases quote <;> decide

/-- A value between marks starts and ends with a mark. -/
theorem trimmed_around (quote : Quote) (value : Text) : Trimmed (quote.around value) where
  first character head := by
    rw [← Option.some.inj head]
    exact quote.isBlank_mark
  last character final := by
    rw [around, ← List.cons_append, List.getLast?_concat] at final
    rw [← Option.some.inj final]
    exact quote.isBlank_mark

end Quote

namespace Assignment

/-- What the text of a value stands for: the inside of quotes, and anything else for itself. -/
inductive Denotes : Text → Text → Prop where
  /-- A value in quotes. -/
  | quoted (quote : Quote) (value : Text) : Denotes (quote.around value) value
  /-- A value that is not in quotes. -/
  | plain {value : Text} (bare : ∀ (quote : Quote) inside, value ≠ quote.around inside) :
      Denotes value value

/-- The quotes around a value are removed. -/
theorem unquote_around (quote : Quote) (value : Text) : unquote (quote.around value) = value := by
  cases quote with
  | single =>
    have inside : enclosed? '\'' '\'' (Quote.single.around value) = some value :=
      enclosed?_eq_some_iff.2 rfl
    rw [unquote, inside]
    rfl
  | double =>
    have other : enclosed? '\'' '\'' (Quote.double.around value) = none := rfl
    have inside : enclosed? '"' '"' (Quote.double.around value) = some value :=
      enclosed?_eq_some_iff.2 rfl
    rw [unquote, other, inside]
    rfl

/-- Without quotes a value is kept. -/
theorem unquote_of_bare {value : Text}
    (bare : ∀ (quote : Quote) inside, value ≠ quote.around inside) : unquote value = value := by
  have single : enclosed? '\'' '\'' value = none := Option.eq_none_iff_forall_ne_some.2
    fun inside found => bare .single inside (enclosed?_eq_some_iff.1 found)
  have double : enclosed? '"' '"' value = none := Option.eq_none_iff_forall_ne_some.2
    fun inside found => bare .double inside (enclosed?_eq_some_iff.1 found)
  rw [unquote, single, double]
  rfl

/-- Removing quotes finds exactly what a text stands for. -/
theorem unquote_eq_iff {raw value : Text} : unquote raw = value ↔ Denotes raw value := by
  constructor
  · rintro rfl
    by_cases enclosed : ∃ (quote : Quote) (inside : Text), raw = quote.around inside
    · obtain ⟨quote, inside, rfl⟩ := enclosed
      rw [unquote_around]
      exact .quoted quote inside
    · have bare : ∀ (quote : Quote) inside, raw ≠ quote.around inside :=
        fun quote inside same => enclosed ⟨quote, inside, same⟩
      rw [unquote_of_bare bare]
      exact .plain bare
  · rintro (⟨quote, value⟩ | bare)
    · exact unquote_around quote value
    · exact unquote_of_bare bare

/-- The line is the name, an equals sign and a text that stands for the value, with blanks around
the name and around that text. -/
def Spells (line : Text) (assignment : Assignment) : Prop :=
  ∃ leading between following raw trailing,
    line = leading ++ assignment.name ++ between ++ '=' :: (following ++ raw ++ trailing) ∧
      (AllBlank leading ∧ AllBlank between ∧ AllBlank following ∧ AllBlank trailing) ∧
      isName assignment.name = true ∧ Trimmed raw ∧ Denotes raw assignment.value

/-- A character of a name lies between the digit zero and the letter `z`, and it is no sign. -/
theorem toNat_of_isNameCharacter {character : Char}
    (named : isNameCharacter character = true) :
    0x30 ≤ character.toNat ∧ character.toNat ≤ 0x39 ∨
      0x41 ≤ character.toNat ∧ character.toNat ≤ 0x7A := by
  change ((decide ('A'.val ≤ character.val ∧ character.val ≤ 'Z'.val) ||
    (decide ('a'.val ≤ character.val) && decide (character.val ≤ 'z'.val))) ||
    (decide ('0'.val ≤ character.val) && decide (character.val ≤ '9'.val)) ||
    character == '_') = true at named
  simp only [Bool.or_eq_true, Bool.and_eq_true, decide_eq_true_eq, beq_iff_eq,
    UInt32.le_iff_toNat_le] at named
  rcases named with ((⟨low, high⟩ | ⟨low, high⟩) | ⟨low, high⟩) | rfl
  · exact .inr ⟨low, Nat.le_trans high (by decide)⟩
  · exact .inr ⟨Nat.le_trans (by decide) low, high⟩
  · exact .inl ⟨low, high⟩
  · decide

/-- A name holds no blank. -/
theorem unbroken_of_isName {name : Text} (named : isName name = true) : Unbroken name := by
  intro character inside
  rw [isName, Bool.and_eq_true, List.all_eq_true] at named
  have bounds := toNat_of_isNameCharacter (named.2 character inside)
  simp [isBlank]
  omega

/-- A name holds no equals sign. -/
theorem equals_not_mem_of_isName {name : Text} (named : isName name = true) : '=' ∉ name := by
  intro inside
  rw [isName, Bool.and_eq_true, List.all_eq_true] at named
  exact absurd (named.2 '=' inside) (by decide)

/-- Blanks hold no equals sign. -/
theorem equals_not_mem_of_allBlank {blanks : Text} (blank : AllBlank blanks) : '=' ∉ blanks :=
  fun inside => absurd (blank '=' inside) (by decide)

/-- Blanks around a line change nothing about its sides. -/
theorem ofSides?_between_blanks {before after : Text} (leading : AllBlank before)
    (trailing : AllBlank after) (line : Text) :
    ofSides? (before ++ line ++ after) = ofSides? line := by
  by_cases assigned : '=' ∈ line
  · obtain ⟨left, right, rfl, first⟩ := List.eq_append_cons_of_mem assigned
    have early : '=' ∉ before ++ left := by
      simp [equals_not_mem_of_allBlank leading, first]
    have split : before ++ (left ++ '=' :: right) ++ after =
        before ++ left ++ '=' :: (right ++ after) := by simp
    rw [split, ofSides?_append early, ofSides?_append first, trim_allBlank_append leading,
      trim_append_allBlank trailing]
  · have absent : '=' ∉ before ++ line ++ after := by
      simp [assigned, equals_not_mem_of_allBlank leading, equals_not_mem_of_allBlank trailing]
    rw [ofSides?_of_not_mem assigned, ofSides?_of_not_mem absent]

/-- A line that starts with the mark of comments has no name on its left side. -/
theorem ofSides?_of_comment (rest : Text) : ofSides? (commentMark :: rest) = none := by
  by_cases assigned : '=' ∈ commentMark :: rest
  · obtain ⟨left, right, split, first⟩ := List.eq_append_cons_of_mem assigned
    obtain ⟨front, rfl⟩ : ∃ front, left = commentMark :: front := by
      cases left with
      | nil => simp [commentMark] at split
      | cons character front => exact ⟨front, by rw [(List.cons.inj split).1]⟩
    -- Trimming leaves the mark in the left side, and no name holds it.
    have marked : commentMark ∈ trim (commentMark :: front) := by
      obtain ⟨before, after, whole, leading, trailing, -⟩ := exists_trim (commentMark :: front)
      have inside : commentMark ∈ before ++ trim (commentMark :: front) ++ after := by
        rw [← whole]
        exact List.mem_cons_self
      have outside : ∀ blanks, AllBlank blanks → commentMark ∉ blanks :=
        fun blanks blank found => absurd (blank _ found) (by decide)
      simpa [outside before leading, outside after trailing] using inside
    have nameless : ¬ isName (trim (commentMark :: front)) = true := by
      intro named
      rw [isName, Bool.and_eq_true, List.all_eq_true] at named
      exact absurd (named.2 _ marked) (by decide)
    rw [split, ofSides?_append first, if_neg nameless]
  · exact ofSides?_of_not_mem assigned

/-- The blanks around a line and the tests for empty lines and comments may be left out: the
sides of the first equals sign say the same. -/
theorem ofLine?_eq_ofSides? (line : Text) : ofLine? line = ofSides? line := by
  obtain ⟨before, after, split, leading, trailing, -⟩ := exists_trim line
  have inside : ofSides? line.trim = ofSides? line :=
    calc
      ofSides? line.trim = ofSides? (before ++ line.trim ++ after) :=
        (ofSides?_between_blanks leading trailing _).symm
      _ = ofSides? line := by rw [← split]
  rw [← inside, ofLine?]
  split
  · rename_i silent
    rcases silent with empty | comment
    · rw [empty]
      rfl
    · obtain ⟨rest, shown⟩ := List.head?_eq_some_iff.1 comment
      rw [shown, ofSides?_of_comment]
  · rfl

/-- Reading a line finds exactly the assignment that the line spells. -/
theorem ofLine?_eq_some_iff {line : Text} {assignment : Assignment} :
    ofLine? line = some assignment ↔ Spells line assignment := by
  rw [ofLine?_eq_ofSides?]
  constructor
  · intro made
    unfold ofSides? at made
    split at made
    · simp at made
    · rename_i left right cut
      obtain ⟨rfl, -⟩ := cut?_eq_some_iff.1 cut
      obtain ⟨named, same⟩ := Option.ite_none_right_eq_some.1 made
      obtain rfl := Option.some.inj same
      obtain ⟨leading, between, name, blank, blanks, -⟩ := exists_trim left
      obtain ⟨following, trailing, raw, clear, clears, trimmed⟩ := exists_trim right
      refine ⟨leading, between, following, right.trim, trailing, ?_,
        ⟨blank, blanks, clear, clears⟩, named, trimmed, unquote_eq_iff.1 rfl⟩
      rw [← raw]
      exact congrArg (· ++ '=' :: right) name
  · rintro ⟨leading, between, following, raw, trailing, rfl, ⟨blank, blanks, clear, clears⟩, named,
      trimmed, denoted⟩
    -- The value may hold more equals signs, so the first one has to be the one after the name.
    have absent : '=' ∉ leading ++ assignment.name ++ between := by
      simp [equals_not_mem_of_allBlank blank, equals_not_mem_of_allBlank blanks,
        equals_not_mem_of_isName named]
    have name : trim (leading ++ assignment.name ++ between) = assignment.name :=
      trim_append blank blanks (trimmed_of_unbroken (unbroken_of_isName named))
    have value : unquote (trim (following ++ raw ++ trailing)) = assignment.value := by
      rw [trim_append clear clears trimmed]
      exact unquote_eq_iff.2 denoted
    rw [ofSides?_append absent, name, value, if_pos named]

/-- Nothing is read from a line exactly if it spells no assignment. -/
theorem ofLine?_eq_none_iff {line : Text} :
    ofLine? line = none ↔ ∀ assignment, ¬ Spells line assignment := by
  simp only [Option.eq_none_iff_forall_ne_some, ne_eq, ofLine?_eq_some_iff]

/-- A blank at the end of a line changes nothing about its assignment. -/
theorem ofLine?_append_blank {blank : Char} (isolated : isBlank blank = true) (line : Text) :
    ofLine? (line ++ [blank]) = ofLine? line := by
  have single : AllBlank [blank] := by simpa [AllBlank] using isolated
  rw [ofLine?, ofLine?, trim_append_allBlank single]

/-- A carriage return at the end of a line changes nothing about its assignment. -/
theorem ofLine?_dropReturn (line : Text) : ofLine? line.dropReturn = ofLine? line :=
  apply_dropReturn (ofLine?_append_blank (by decide)) line

/-- The value of an assignment stands in the line that spells it. -/
theorem mem_of_mem_value {line : Text} {assignment : Assignment}
    (spelled : Spells line assignment) {character : Char} (inside : character ∈ assignment.value) :
    character ∈ line := by
  obtain ⟨leading, between, following, raw, trailing, rfl, -, -, -, denoted⟩ := spelled
  have written : character ∈ raw := by
    generalize assignment.value = value at denoted inside
    cases denoted with
    | quoted quote => simp [Quote.around, inside]
    | plain => exact inside
  simp [written]

/-- A name, a blank, an equals sign, a blank and a quoted value spell the assignment. -/
theorem spells_quoted {assignment : Assignment} (named : isName assignment.name = true)
    (quote : Quote) :
    Spells (assignment.name ++ [' ', '=', ' '] ++ quote.around assignment.value) assignment := by
  have blank : AllBlank [' '] := by decide
  have nothing : AllBlank [] := List.forall_mem_nil _
  exact ⟨[], [' '], [' '], quote.around assignment.value, [], by simp,
    ⟨nothing, blank, blank, nothing⟩, named, quote.trimmed_around assignment.value,
    .quoted quote assignment.value⟩

end Assignment
end Backtrace
