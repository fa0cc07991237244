import Backtrace.Text.Blank

/-!
# Faults of the system

A fault is the failure of one input, output or process operation, under the kind in which the
system files it and with its own text. A fault that a layer of the program raises may have other
errors behind it; those of the system itself have none.
-/

namespace Backtrace

/-- The failure of one operation of the system. -/
structure Fault where
  /-- The name of the kind of failure. -/
  kind : Text
  /-- The text that describes it. -/
  message : Text
  /-- The texts of the errors behind it, the nearest first. -/
  sources : List Text
deriving DecidableEq

namespace Fault

/-- A fault of the system itself, with no error behind it. -/
def ofSystem (kind message : String) : Fault := ⟨kind.toList, message.toList, []⟩

/-- An interruption asks for the same operation again; every other fault is final. -/
def isInterruption (fault : Fault) : Bool := fault.kind == "Interrupted".toList

/-- The texts of a fault, from its own to that of the error furthest behind it. -/
def chain (fault : Fault) : List Text := fault.message :: fault.sources

/-- A name or argument that cannot be given to a program because it holds a zero byte. -/
def zeroByteInArgument : Fault :=
  ofSystem "InvalidInput" "nul byte found in provided data"

/-- A file name that holds a zero byte. -/
def zeroByteInFileName : Fault :=
  ofSystem "InvalidInput" "file name contained an unexpected NUL byte"

/-- Text was asked for and the bytes are not well-formed UTF-8. -/
def notText : Fault := ofSystem "InvalidData" "stream did not contain valid UTF-8"

/-- Nothing has the name. -/
def missing : Fault := ofSystem "NotFound" "No such file or directory (os error 2)"

/-- The file is there and may not be used in this way. -/
def denied : Fault := ofSystem "PermissionDenied" "Permission denied (os error 13)"

/-- A name continues below something that is not a directory. -/
def notDirectory : Fault := ofSystem "NotADirectory" "Not a directory (os error 20)"

/-- A directory has no bytes to read. -/
def isDirectory : Fault := ofSystem "IsADirectory" "Is a directory (os error 21)"

/-- A name is longer than the system allows. -/
def nameTooLong : Fault := ofSystem "InvalidFilename" "File name too long (os error 36)"

/-- An argument is longer than the system hands to a program. -/
def argumentTooLong : Fault :=
  ofSystem "ArgumentListTooLong" "Argument list too long (os error 7)"

/-- An output took no byte of what it was given. -/
def shortWrite : Fault := ofSystem "WriteZero" "failed to write whole buffer"

/-- An output took no byte of what a buffer held back for it. -/
def shortFlush : Fault := ofSystem "WriteZero" "failed to write the buffered data"

end Fault

/-- A fault that trying again does not mend. -/
abbrev FinalFault := { fault : Fault // fault.isInterruption = false }

end Backtrace
