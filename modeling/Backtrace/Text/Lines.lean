import Backtrace.Text.Blank

/-!
# Lines of a text

A line ends at a line feed. The reader of a whole text drops the line feed and one carriage
return before it, and counts no empty line after the last line feed. The laws give the lines of
a text that starts with a finished line.
-/

namespace Backtrace.Text

/-- The text without one carriage return at its end. -/
def dropReturn (text : Text) : Text :=
  if text.getLast? = some '\r' then text.dropLast else text

/-- The lines among the pieces between line feeds: every piece but the last was ended by a line
feed, and an empty last piece is no line. -/
def linesOfPieces : List Text → List Text
  | [] => []
  | [last] => if last = [] then [] else [last]
  | piece :: next :: later => dropReturn piece :: linesOfPieces (next :: later)

/-- The lines of a text, without their ends. -/
def lines (text : Text) : List Text := linesOfPieces (text.splitOn '\n')

/-- The empty text has no lines. -/
@[simp] theorem lines_nil : lines [] = [] := by simp [lines, linesOfPieces]

/-- A piece before other pieces is a line that a line feed ended. -/
theorem linesOfPieces_cons {piece : Text} {pieces : List Text} (later : pieces ≠ []) :
    linesOfPieces (piece :: pieces) = dropReturn piece :: linesOfPieces pieces := by
  match pieces, later with
  | _ :: _, _ => rfl

/-- The first line is what precedes the first line feed. -/
theorem lines_append_lineFeed {line : Text} (single : '\n' ∉ line) (rest : Text) :
    lines (line ++ '\n' :: rest) = dropReturn line :: lines rest := by
  unfold lines
  rw [List.splitOn_append_cons_self_of_not_mem single]
  exact linesOfPieces_cons (List.splitOn_ne_nil _ _)

/-- A text that is not empty and holds no line feed is one line. -/
theorem lines_of_single {line : Text} (nonempty : line ≠ []) (single : '\n' ∉ line) :
    lines line = [line] := by
  rw [lines, List.splitOn_eq_singleton single]
  simp [linesOfPieces, nonempty]

end Backtrace.Text
