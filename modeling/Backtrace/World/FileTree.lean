import Backtrace.World

/-!
# File trees

A world given by its files: directories, files with bytes, and programs whose replies are listed.
A tree lists what stands at absolute locations; every location above a listed one is a directory.
A path is walked part by part, and each step but the last must lead to a directory. Paths, names
and arguments have greatest lengths. Bare program names are looked up in the directory `bin` of the
current directory; they are names and not paths, so only the greatest length of a name binds them.
A signal that a program raises ends it only if that is what the signal does by default, and no
program leaves an image of its memory.
-/

namespace Backtrace

namespace ExitStatus

/-- The greatest number of a signal. -/
def lastSignal : Nat := 64

/-- The signals that end no process by default: a process ignores, stops at or goes on after the
signals about its children, its being stopped, urgent data and its window, and the two that serve
the management of threads cannot be raised. -/
def harmlessSignals : List Nat := [17, 18, 19, 20, 21, 22, 23, 28, 32, 33]

/-- The number is that of a signal that ends a process by default. -/
def isDeadly (signal : Nat) : Bool :=
  0 < signal && signal ≤ lastSignal && !harmlessSignals.contains signal

/-- How a process ends that raises a signal, if any, and then ends itself with a code. -/
def ofRaised (raised : Option Nat) (code : UInt8) : ExitStatus :=
  match raised.filter isDeadly with
  | some signal => .signalled signal false
  | none => .exited code

end ExitStatus

/-- The greatest length of an argument, in bytes: with the zero byte that ends it, an argument
takes up to 32 pages of 4096 bytes. -/
def longestArgument : Nat := 131071

/-- The invocation holds an argument that is too long to hand over. The name of a program that
is found is never too long. -/
def Invocation.hasLongArgument (invocation : Invocation) : Bool :=
  invocation.arguments.any fun argument => longestArgument < argument.length

/-- A program given by its replies to addresses. -/
structure ScriptedProgram where
  /-- The replies to some fourth arguments. -/
  cases : List (Bytes × Completion)
  /-- The reply to all others. -/
  fallback : Completion
deriving DecidableEq

/-- What a scripted program leaves behind when it is run. -/
def ScriptedProgram.run (script : ScriptedProgram) (arguments : List Bytes) : Completion :=
  ((arguments[3]?).bind fun address => script.cases.lookup address).getD script.fallback

/-- What can stand at a location. -/
inductive Node where
  /-- A directory. -/
  | directory
  /-- A file that is not a program. -/
  | file (content : Bytes)
  /-- A file that is a program, and whether it may be run. -/
  | program (script : ScriptedProgram) (executable : Bool)
deriving DecidableEq

/-- A place in a tree: the names that lead to it from the root. -/
abbrev Location := List Bytes

/-- The location that the parts of a path spell out, without `.` and empty parts. -/
def Location.ofPath (path : Path) : Location :=
  path.parts.filter fun part => part != [] && part != dot

/-- A tree of files with a current directory. -/
structure FileTree where
  /-- The current directory, an absolute path. -/
  current : Path
  /-- What stands at some locations. -/
  listed : List (Location × Node)

namespace FileTree

/-- The tree whose files are named from its current directory. -/
def ofListing (current : Path) (files : List (Path × Node)) : FileTree :=
  let base := Location.ofPath current
  ⟨current, (base, .directory) ::
    files.map fun file => (base ++ Location.ofPath file.1, file.2)⟩

/-- What stands at a location: what is listed there, or a directory above a listed location. -/
def node? (tree : FileTree) (location : Location) : Option Node :=
  match tree.listed.lookup location with
  | some node => some node
  | none =>
    if location = [] ∨ tree.listed.any fun entry => location.isPrefixOf entry.1 then
      some .directory
    else none

/-- The greatest length of the name of a file, in bytes. -/
def longestName : Nat := 255

/-- The greatest length of a path, in bytes. -/
def longestPath : Nat := 4095

/-- One step of a walk. Empty parts and `.` stay, `..` goes up, and any other part goes down to
what has its name; all ask for a directory to step from. -/
def step (tree : FileTree) (location : Location) (part : Bytes) : Except Fault Location :=
  if tree.node? location ≠ some .directory then .error .notDirectory
  else if part = [] ∨ part = dot then .ok location
  else if part = dotDot then .ok location.dropLast
  else if longestName < part.length then .error .nameTooLong
  else if (tree.node? (location ++ [part])).isSome then .ok (location ++ [part])
  else .error .missing

/-- The location to which parts lead from a location, one step for each. -/
def descend (tree : FileTree) (start : Location) (parts : List Bytes) : Except Fault Location :=
  parts.foldlM tree.step start

/-- The location to which a path leads from the current directory. -/
def walk (tree : FileTree) (path : Path) : Except Fault Location :=
  if path.bytes = [] then .error .missing
  else if longestPath < path.bytes.length then .error .nameTooLong
  else if path.isAbsolute then tree.descend [] path.parts
  else tree.descend (Location.ofPath tree.current) path.parts

/-- What stands where a walk ends. -/
def arrive (tree : FileTree) (walked : Except Fault Location) : Except Fault Node :=
  match walked with
  | .error fault => .error fault
  | .ok location =>
    match tree.node? location with
    | some node => .ok node
    | none => .error .missing

/-- What stands where a path leads. -/
def find (tree : FileTree) (path : Path) : Except Fault Node := tree.arrive (tree.walk path)

/-- The bytes of the file to which a path leads. -/
def read (tree : FileTree) (path : Path) : Except Fault Bytes :=
  match tree.find path with
  | .error fault => .error fault
  | .ok .directory => .error .isDirectory
  | .ok (.file content) => .ok content
  | .ok (.program ..) => .ok []

/-- Whether a path leads to a regular file. -/
def isFile (tree : FileTree) (path : Path) : Bool :=
  match tree.find path with
  | .error _ => false
  | .ok .directory => false
  | .ok _ => true

/-- The directory of the programs with bare names. -/
def programDirectory : Bytes := Utf8.encode "bin".toList

/-- A bare name has no slash and is not empty. -/
def isBareName (name : Path) : Bool := !name.bytes.isEmpty && !name.bytes.contains slash

/-- What stands where a program is looked for: a bare name is sought in the directory of
programs, and any other name is a path. However long a bare name is, it is refused for its
length only where that directory is reached. -/
def findProgram (tree : FileTree) (name : Path) : Except Fault Node :=
  if isBareName name then
    tree.arrive (tree.descend (Location.ofPath tree.current) [programDirectory, name.bytes])
  else tree.find name

/-- The program that a name starts; only an executable program can be started. -/
def locate (tree : FileTree) (name : Path) : Except Fault ScriptedProgram :=
  match tree.findProgram name with
  | .error fault => .error fault
  | .ok (.program script true) => .ok script
  | .ok _ => .error .denied

/-- Why a program is not started. It is found before the lengths of its arguments are looked at. -/
def refusal? (tree : FileTree) (invocation : Invocation) : Option Fault :=
  match tree.locate invocation.program with
  | .error fault => some fault
  | .ok _ => if invocation.hasLongArgument then some .argumentTooLong else none

/-- What a program that is started leaves behind. -/
def reply (tree : FileTree) (invocation : Invocation) : Completion :=
  match tree.locate invocation.program with
  | .error _ => ⟨.exited 0, [], []⟩
  | .ok script => script.run invocation.arguments

/-- The tree as a run sees it. Its programs keep nothing from one request to the next. -/
def world (tree : FileTree) : World :=
  ⟨.ok tree.current, tree.read, tree.isFile, tree.refusal?, fun _ => tree.reply⟩

end FileTree
end Backtrace
