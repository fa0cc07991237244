import Backtrace.Address
import Backtrace.Text.Enclosed
import Backtrace.Text.Lines

/-!
# Frames of a backtrace

The loader prints one frame a line: a blank, the run-time address, and for a relocated image the
link-time address in parentheses. The address to resolve is the link-time address where there is
one. Every other line is noise and has no address.
-/

namespace Backtrace.Frame

/-- The characters that every frame line starts with. -/
def opening : Text := [' ', '0', 'x']

/-- The word of a frame line that should spell the address to resolve: the only word, or the
inside of the second of two where it is in parentheses. -/
def candidate? (line : Text) : Option Text :=
  match line.words with
  | [only] => some only
  | [_, second] => Text.enclosed? '(' ')' second
  | _ => none

/-- The address to resolve of a frame line; none for any other line. -/
def address? (line : Text) : Option Address :=
  if opening.isPrefixOf line then (candidate? line).bind Address.parse? else none

/-- The addresses of the frames in a whole text, in order. -/
def addresses (text : Text) : List Address := text.lines.filterMap address?

/-- A line that does not start as frames do has no address. -/
theorem address?_of_not_opening {line : Text} (other : ¬ opening <+: line) :
    address? line = none := by
  simp [address?, List.isPrefixOf_iff_prefix, other]

end Backtrace.Frame
