import Backtrace.Text.Cut
import Backtrace.Text.Enclosed

/-!
# Assignments

A line of the options cache assigns a value to a name: the name, an equals sign, and the value,
which may stand in quotes, with blanks around each. A line of any other form is no assignment,
and neither is an empty line or a comment.
-/

namespace Backtrace

/-- A value given to a name. -/
structure Assignment where
  /-- The name. -/
  name : Text
  /-- The value, without quotes around it. -/
  value : Text
deriving DecidableEq

namespace Assignment

/-- The characters of names: ASCII letters and digits, and the underscore. -/
def isNameCharacter (character : Char) : Bool := character.isAlphanum || character == '_'

/-- Names are not empty. -/
def isName (text : Text) : Bool := !text.isEmpty && text.all isNameCharacter

/-- The inside of a value in single or double quotes; any other value as it is. -/
def unquote (value : Text) : Text :=
  ((Text.enclosed? '\'' '\'' value).or (Text.enclosed? '"' '"' value)).getD value

/-- The assignment that the two sides of the first equals sign make, if they make one. -/
def ofSides? (line : Text) : Option Assignment :=
  match Text.cut? '=' line with
  | none => none
  | some (left, right) =>
    if isName left.trim then some ⟨left.trim, unquote right.trim⟩ else none

/-- The character that comments start with. -/
def commentMark : Char := '#'

/-- The assignment that a line makes, if it makes one. Nothing is looked for in an empty line and
in a comment. -/
def ofLine? (line : Text) : Option Assignment :=
  if line.trim = [] ∨ line.trim.head? = some commentMark then none else ofSides? line.trim

/-- A line without an equals sign has no sides. -/
theorem ofSides?_of_not_mem {line : Text} (absent : '=' ∉ line) : ofSides? line = none := by
  rw [ofSides?, Text.cut?_eq_none_iff.2 absent]

/-- The sides of the first equals sign make an assignment if the left one is a name. -/
theorem ofSides?_append {left : Text} (first : '=' ∉ left) (right : Text) :
    ofSides? (left ++ '=' :: right) =
      if isName left.trim then some ⟨left.trim, unquote right.trim⟩ else none := by
  rw [ofSides?, Text.cut?_eq_some_iff.2 ⟨rfl, first⟩]

/-- Every name that a line assigns to is a name. -/
theorem isName_of_ofLine? {line : Text} {assignment : Assignment}
    (made : ofLine? line = some assignment) : isName assignment.name = true := by
  unfold ofLine? ofSides? at made
  split at made
  · simp at made
  · split at made
    · simp at made
    · split at made
      · rw [← Option.some.inj made]
        assumption
      · simp at made

end Assignment
end Backtrace
