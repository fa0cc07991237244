import Backtrace.Address
import Backtrace.Process
import Backtrace.Summary
import Backtrace.Text.Quoted

/-!
# Log records

What a run tells about itself beside its output. A record is a cause; its level and its text are
functions of it.
-/

namespace Backtrace

/-- How important a record is. -/
inductive Level where
  | trace
  | debug
  | info
  | warning
  | error
deriving DecidableEq

/-- The name of a level in a log. -/
def Level.name : Level → Text
  | trace => "TRACE".toList
  | debug => "DEBUG".toList
  | info => "INFO".toList
  | warning => "WARN".toList
  | error => "ERROR".toList

/-- Something that a run reports. -/
inductive Record where
  /-- The words of the argument line are refused, for the reason that their parser gives. -/
  | argumentsRefused (reason : Text)
  /-- A line is no frame; its text has no blanks at the end. -/
  | skippedLine (number : Nat) (text : Text)
  /-- The frame of a line has no known place, as the named resolver says. -/
  | unresolvedFrame (number : Nat) (address : Address) (resolver : Text)
  /-- The resolver program did not succeed; the complaint is its first line of error output. -/
  | resolverFailed (address : Address) (status : ExitStatus) (complaint : Text)
  /-- The resolver program succeeded with fewer than two lines of output. -/
  | shortOutput (address : Address) (output : Text)
  /-- A configuration was derived from the cached options. -/
  | configured (variant : Text) (artifact resolver : Path)
  /-- The artifact is not a file. -/
  | artifactMissing (artifact : Path)
  /-- A run ended well. -/
  | finished (summary : Summary)
deriving DecidableEq

namespace Record

/-- The level at which a record is logged. -/
def level : Record → Level
  | argumentsRefused .. => .debug
  | skippedLine .. => .trace
  | unresolvedFrame .. => .debug
  | resolverFailed .. => .debug
  | shortOutput .. => .debug
  | configured .. => .info
  | artifactMissing .. => .warning
  | finished .. => .info

/-- The text of a record. -/
def message : Record → Text
  | argumentsRefused reason => "argument parsing failed: ".toList ++ reason
  | skippedLine number text =>
    "skipping line ".toList ++ Nat.toDigits 10 number ++ ": ".toList ++ text.quoted
  | unresolvedFrame number address resolver =>
    "line ".toList ++ Nat.toDigits 10 number ++ ": ".toList ++ address.spelling ++
      " did not resolve via ".toList ++ resolver
  | resolverFailed address status complaint =>
    address.spelling ++ " unresolved (".toList ++ status.describe ++ "): ".toList ++ complaint
  | shortOutput address output =>
    address.spelling ++ " unresolved: short resolver output ".toList ++ output.quoted
  | configured variant artifact resolver =>
    "using variant ".toList ++ variant ++ ": artifact ".toList ++ artifact.display ++
      ", resolver ".toList ++ resolver.display
  | artifactMissing artifact =>
    "artifact ".toList ++ artifact.display ++
      " does not exist; frames will not resolve".toList
  | finished summary =>
    Nat.toDigits 10 summary.lines ++ " lines, ".toList ++
      Nat.toDigits 10 summary.addresses ++ " frames, ".toList ++
      Nat.toDigits 10 summary.resolved ++ " resolved, ".toList ++
      Nat.toDigits 10 summary.unresolved ++ " unresolved".toList

/-- Errors end a run, which reports them itself and does not log them. -/
theorem level_ne_error (record : Record) : record.level ≠ .error := by
  cases record <;> simp [level]

end Record
end Backtrace
