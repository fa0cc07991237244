import Backtrace.Path

/-!
# Usage of the program

The name under which the program speaks of itself and the texts that say how it is used.
-/

namespace Backtrace.Usage

/-- The name of a program that was started under no usable name. -/
def fallbackName : Text := "decode".toList

/-- The name of the program: the last name in the path under which it was started. -/
def programName (line : List Bytes) : Text :=
  match line.head?.bind fun started => Path.fileName? ⟨started⟩ with
  | some name => Utf8.decodeLossy name
  | none => fallbackName

/-- The version of the program. -/
def version : Text := "0.1.0".toList

/-- The synopsis of an invocation, on one line. -/
def synopsis (program : Text) : Text :=
  "Usage: ".toList ++ program ++
    " [<path to kboot.elf> [<path to addr2line>]] < <output>".toList

/-- What the program does, in whole lines. -/
def description : Text :=
  ("Input the backtrace output from KBoot (after the 'Backtrace' line) on\n" ++
    "standard input. Each resolved frame is printed as\n" ++
    "'<address> - <function> @ <file:line>'.\n" ++
    "\n" ++
    "If no arguments are specified, this assumes it is run from the root of the\n" ++
    "source directory, with .options.cache matching the configuration the\n" ++
    "backtrace came from and the build tree containing the kboot.elf it came\n" ++
    "from. If the addr2line path is omitted, 'addr2line' is looked up on PATH.\n").toList

/-- The full help text. -/
def help (program : Text) : Text :=
  synopsis program ++ "\n\n".toList ++ description ++ "\ndecode-core v".toList ++ version ++
    "\n".toList

/-- The text about arguments that the program does not take. -/
def refusal (program : Text) : Text :=
  "Invalid arguments\n".toList ++ synopsis program ++ "\n".toList

end Backtrace.Usage
