import Backtrace.Fault
import Backtrace.Process

/-!
# The world of a run

What a run can learn from the system: its current directory, the bytes of files, which names are
files, which programs can be started, and what a program leaves behind. Whether a program starts
depends on its name and arguments alone, since nothing in the world changes; what it leaves behind
may also depend on how much was asked before. A name or argument with a zero byte reaches no file
and no program.
-/

namespace Backtrace

/-- The system as a run sees it. -/
structure World where
  /-- The current directory, or why it is not known. -/
  directory : Except Fault Path
  /-- The bytes of a file. -/
  read : Path → Except Fault Bytes
  /-- Whether a path is that of a regular file. -/
  isFile : Path → Bool
  /-- Why the system does not start a program with some arguments; nothing if it does. -/
  refusal? : Invocation → Option Fault
  /-- What a program that is started leaves behind, after a number of earlier requests. -/
  reply : Nat → Invocation → Completion

namespace World

/-- The bytes of a file whose name can be given to the system. -/
def readBytes (world : World) (path : Path) : Except Fault Bytes :=
  if path.bytes.contains 0 then .error .zeroByteInFileName else world.read path

/-- The text of a file. -/
def readText (world : World) (path : Path) : Except Fault Text :=
  match world.readBytes path with
  | .error fault => .error fault
  | .ok bytes =>
    match Utf8.decode? bytes with
    | some text => .ok text
    | none => .error .notText

/-- What keeps a program from being started, if anything does. -/
def obstacle? (world : World) (invocation : Invocation) : Option Fault :=
  if invocation.hasZeroByte then some .zeroByteInArgument else world.refusal? invocation

/-- Runs a program to its end, if it can be started. -/
def start (world : World) (asked : Nat) (invocation : Invocation) : Except Fault Completion :=
  match world.obstacle? invocation with
  | some fault => .error fault
  | none => .ok (world.reply asked invocation)

end World
end Backtrace
