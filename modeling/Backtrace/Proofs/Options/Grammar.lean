import Backtrace.Configuration.Derived
import Backtrace.Proofs.Options.LastAssigned
import Backtrace.Proofs.Options.Spelling
import Backtrace.Proofs.Text.Listed

/-!
# The grammar of an options cache

Which lines of a cache assign which value to which name, said without cutting, trimming or
removing quotes: such a line is put together from a name, an equals sign and a value, with white
space around both. The characters of names and of white space are listed one by one. The main
statement is that a name has the value which the last line assigning to it assigns, and that the
other lines of the cache have no say in it.
-/

namespace Backtrace

namespace Text

/-- A text that neither starts nor ends with white space. -/
def SolidEnds (text : Text) : Prop :=
  (∀ character ∈ text.head?, character.toNat ∉ whiteSpace) ∧
    ∀ character ∈ text.getLast?, character.toNat ∉ whiteSpace

/-- No white space at the ends is no blank there. -/
theorem solidEnds_iff_trimmed {text : Text} : SolidEnds text ↔ Trimmed text := by
  simp only [SolidEnds, ← isBlank_iff_mem, Bool.not_eq_true]
  exact ⟨fun ends => ⟨ends.1, ends.2⟩, fun trimmed => ⟨trimmed.first, trimmed.last⟩⟩

end Text

open Text

namespace Assignment

/-- The characters of names, listed. -/
def nameCharacters : Text :=
  "ABCDEFGHIJKLMNOPQRSTUVWXYZabcdefghijklmnopqrstuvwxyz0123456789_".toList

/-- The characters of names are the listed ones. -/
theorem isNameCharacter_iff_mem {character : Char} :
    isNameCharacter character = true ↔ character ∈ nameCharacters := by
  have bounded (other : Char) (named : isNameCharacter other = true) : other.toNat < 0x7B := by
    have points := toNat_of_isNameCharacter named
    omega
  exact passes_iff_mem bounded (by decide +kernel) (by decide)

/-- One or more characters of names. -/
def IsListedName (name : Text) : Prop :=
  name ≠ [] ∧ ∀ character ∈ name, character ∈ nameCharacters

/-- The texts of listed characters are the names. -/
theorem isListedName_iff_isName {name : Text} : IsListedName name ↔ isName name = true := by
  simp [IsListedName, isName, isNameCharacter_iff_mem]

/-- The line assigns the value to the name: it is the name, an equals sign and a text that stands
for the value, with white space around the name and around that text. -/
def Assigns (line name value : Text) : Prop :=
  ∃ leading between following raw trailing,
    line = leading ++ name ++ between ++ '=' :: (following ++ raw ++ trailing) ∧
      (IsWhite leading ∧ IsWhite between ∧ IsWhite following ∧ IsWhite trailing) ∧
      IsListedName name ∧ SolidEnds raw ∧ Denotes raw value

/-- What a line assigns is what is read from it. -/
theorem assigns_iff {line name value : Text} :
    Assigns line name value ↔ ofLine? line = some ⟨name, value⟩ := by
  rw [ofLine?_eq_some_iff]
  simp only [Assigns, Spells, isWhite_iff_allBlank, isListedName_iff_isName, solidEnds_iff_trimmed]

/-- The line assigns something to the name. -/
def AssignsTo (name line : Text) : Prop := ∃ value, Assigns line name value

/-- The value that is read for a name from a line, if the line assigns to the name. -/
def given? (name line : Text) : Option Text := (ofLine? line).bind (·.valueFor? name)

/-- The value read for a name is the one that the line assigns to it. -/
theorem given?_eq_some_iff {name line value : Text} :
    given? name line = some value ↔ Assigns line name value := by
  simp only [given?, assigns_iff, Option.bind_eq_some_iff, valueFor?_eq_some_iff, exists_eq_right]

/-- No value is read for a name exactly if the line does not assign to it. -/
theorem given?_eq_none_iff {name line : Text} :
    given? name line = none ↔ ¬ AssignsTo name line := by
  simp only [Option.eq_none_iff_forall_ne_some, ne_eq, given?_eq_some_iff, AssignsTo, not_exists]

/-- A line assigns to a name exactly if a value is read for it. -/
theorem isSome_given?_iff {name line : Text} :
    (given? name line).isSome ↔ AssignsTo name line := by
  simp only [Option.isSome_iff_exists, given?_eq_some_iff, AssignsTo]

instance (name : Text) : DecidablePred (AssignsTo name) :=
  fun _ => decidable_of_iff _ isSome_given?_iff

/-- The lines that do not assign to a name give it no value. -/
theorem filterMap_given?_filter (name : Text) (lines : List Text) :
    (lines.filter (AssignsTo name ·)).filterMap (given? name) = lines.filterMap (given? name) := by
  have each : ∀ line, (if decide (AssignsTo name line) = true then given? name line else none) =
      given? name line := by
    intro line
    by_cases assigned : AssignsTo name line
    · rw [if_pos (decide_eq_true assigned)]
    · rw [if_neg (by simpa using assigned), given?_eq_none_iff.2 assigned]
  rw [List.filterMap_filter, funext each]

end Assignment

namespace Options

open Assignment

/-- The text assigns the value to the name, and no later line assigns to the name again. -/
def Records (text name value : Text) : Prop :=
  ∃ before line after, text.lines = before ++ line :: after ∧ Assigns line name value ∧
    ∀ later ∈ after, ¬ AssignsTo name later

/-- No line of the text assigns to the name. -/
def Omits (text name : Text) : Prop := ∀ line ∈ text.lines, ¬ AssignsTo name line

/-- A name has the value that the text records for it. -/
theorem get?_ofText_iff_records {text name value : Text} :
    (ofText text).get? name = some value ↔ Records text name value := by
  have silent (line : Text) : ¬ AssignsTo name line ↔
      ∀ assignment, ofLine? line = some assignment → assignment.name ≠ name := by
    simp only [← given?_eq_none_iff, given?, Option.bind_eq_none_iff, valueFor?_eq_none_iff]
  simp only [get?_ofText_eq_some_iff, LastAssigned, Records, assigns_iff, silent]

/-- A name has no value exactly if the text does not assign to it. -/
theorem get?_ofText_iff_omits {text name : Text} :
    (ofText text).get? name = none ↔ Omits text name := by
  have read : (ofText text).get? name = (text.lines.filterMap (given? name)).getLast? :=
    get?_ofText text name
  rw [read, List.getLast?_eq_none_iff, List.filterMap_eq_nil_iff]
  simp only [given?_eq_none_iff, Omits]

/-- A setting has the value that the text records for its key. -/
theorem setting?_ofText_iff_records {text value : Text} (setting : Setting) :
    (ofText text).setting? setting = some value ↔ Records text setting.key value :=
  get?_ofText_iff_records

/-- A setting has no value exactly if the text does not assign to its key. -/
theorem setting?_ofText_iff_omits {text : Text} (setting : Setting) :
    (ofText text).setting? setting = none ↔ Omits text setting.key :=
  get?_ofText_iff_omits

/-- Texts with the same lines that assign to a name record the same for it. -/
theorem get?_ofText_congr {left right name : Text}
    (same : left.lines.filter (AssignsTo name ·) = right.lines.filter (AssignsTo name ·)) :
    (ofText left).get? name = (ofText right).get? name := by
  have read (text : Text) : (ofText text).get? name =
      ((text.lines.filter (AssignsTo name ·)).filterMap (given? name)).getLast? := by
    rw [filterMap_given?_filter]
    exact get?_ofText text name
  rw [read, read, same]

/-- The options of a text have for each name the value that the last line assigning to the name
assigns by the grammar, and none where no line assigns to it. All other lines have no influence on
the value. -/
theorem get?_ofText_by_grammar (text : Text) :
    (∀ name value, (ofText text).get? name = some value ↔ Records text name value) ∧
      (∀ name, (ofText text).get? name = none ↔ Omits text name) ∧
      (∀ name other, text.lines.filter (AssignsTo name ·) = other.lines.filter (AssignsTo name ·) →
        (ofText text).get? name = (ofText other).get? name) ∧
      (∀ value, (ofText text).setting? .variant = some value ↔
        Records text "CONFIG".toList value) ∧
      ∀ value, (ofText text).setting? .toolPrefix = some value ↔
        Records text "CROSS_COMPILE".toList value := by
  refine ⟨fun name value => get?_ofText_iff_records, fun name => get?_ofText_iff_omits, ?_, ?_, ?_⟩
  · intro name other same
    exact get?_ofText_congr same
  · intro value
    exact setting?_ofText_iff_records .variant
  · intro value
    exact setting?_ofText_iff_records .toolPrefix

/-- Quotes of two kinds around a value, quotes around blanks and signs, a lone quote, and between
them a comment, a line without a name, one whose name has a blank in it and one without a sign;
and a cache of the two lines that assign the variant, which records the same variant. -/
theorem get?_ofText_by_grammar_mixed :
    let text : Text :=
      "# CONFIG = 'x'\nCONFIG\u2003=\t'a=b\"\n= 3\nCONFIG 2 = 1\nCONFIG\n".toList ++
        "CONFIG=' #= ' \r\n \nCROSS_COMPILE = '".toList
    let other : Text := "CONFIG\u2003=\t'a=b\"\r\nCONFIG=' #= ' ".toList
    let name : Text := "CONFIG".toList
    text.lines.filter (AssignsTo name ·) = other.lines.filter (AssignsTo name ·) ∧
      Records text name " #= ".toList ∧
      (ofText text).setting? .variant = (ofText other).get? name ∧
      Records text "CROSS_COMPILE".toList ['\''] ∧
      Omits text "CONFIG 2".toList ∧ Omits text [] := by
  intro text other name
  have same : text.lines.filter (AssignsTo name ·) = other.lines.filter (AssignsTo name ·) := by
    decide +kernel
  obtain ⟨-, missing, agreeing, variant, toolPrefix⟩ := get?_ofText_by_grammar text
  have value : (ofText text).setting? .variant = some " #= ".toList := by decide +kernel
  have lone : (ofText text).setting? .toolPrefix = some ['\''] := by decide +kernel
  refine ⟨same, (variant _).1 value, agreeing name other same, (toolPrefix _).1 lone, ?_, ?_⟩
  · exact (missing _).1 (by decide +kernel)
  · exact (missing []).1 (by decide +kernel)

end Options
end Backtrace
