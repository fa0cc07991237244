import Backtrace.CommandLine

/-!
# The program

The outer layer: it gathers the argument line, the one file that a configuration can come from,
and standard input, and gives back what the command line makes of them. All decisions are those
of `CommandLine`. Standard input is read only where there is a configuration to decode under.

This layer cannot start other programs, so a resolver program that is needed counts as one that
does not start. It takes no log filter and no record is of an error, so it shows no records and
need not know which names are files. It parses the argument line with the plainest parser.
-/

namespace Backtrace.Main

/-- The fault that the reading of a file reports. -/
def faultOf : IO.Error → Fault
  | .noFileOrDirectory .. => .missing
  | .permissionDenied .. => .denied
  | error => .ofSystem "Other" error.toString

/-- The fault of starting a program where none can be started. -/
def cannotStart : Fault := .ofSystem "Unsupported" "operation not supported on this platform"

/-- No record is shown. -/
def silent : Logger := fun _ => []

/-- The bytes of a file, or why they cannot be read. -/
def readFile (name : String) : IO (Except Fault Bytes) := do
  try
    return .ok (← IO.FS.readBinFile name).toList
  catch error => return .error (faultOf error)

/-- The current directory, or why it is not known. -/
def currentDirectory : IO (Except Fault Path) := do
  try
    return .ok (.ofText (← IO.currentDir).toString.toList)
  catch error => return .error (faultOf error)

/-- The world as far as the program looks at it: its directory and its options cache. -/
def gatherWorld : IO World := do
  let cache ← readFile ".options.cache"
  return {
    directory := ← currentDirectory
    read := fun _ => cache
    isFile := fun _ => true
    refusal? := fun _ => some cannotStart
    reply := fun _ _ => ⟨.exited 0, [], []⟩ }

/-- All of standard input, which meets its end at once if it is empty. -/
def gatherInput : IO (List ReadEvent) := do
  try
    let bytes ← (← IO.getStdin).readBinToEnd
    return if bytes.isEmpty then [] else [.bytes bytes.toList]
  catch error => return [.ofFault (faultOf error)]

/-- Writes what the program leaves behind. -/
def deliver (outcome : CommandLine.Outcome) : IO UInt32 := do
  (← IO.getStdout).write (ByteArray.mk outcome.stdout.toArray)
  (← IO.getStderr).write (ByteArray.mk outcome.stderr.toArray)
  return UInt32.ofNat outcome.exit

end Backtrace.Main

open Backtrace in
/-- Runs the program on its arguments and standard input. -/
def main (arguments : List String) : IO UInt32 := do
  let name := (← IO.appPath).toString
  let line := (name :: arguments).map fun word => Utf8.encode word.toList
  let world ← Main.gatherWorld
  match CommandLine.prepare Arguments.parse Main.silent line world with
  | .error outcome => Main.deliver outcome
  | .ok prepared =>
    Main.deliver (CommandLine.decode Main.silent world prepared (← Main.gatherInput))
