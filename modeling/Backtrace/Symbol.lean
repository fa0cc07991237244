import Backtrace.Record
import Backtrace.Writer

/-!
# Symbols and resolvers

A resolver says where in the source an address of an artifact lies. It answers each request with
a symbol, with the news that it knows none, or with the failure to start at all. An answer may
depend on how many requests came before.
-/

namespace Backtrace

/-- A place in the source: a function, and a file with a line. -/
structure Symbol where
  /-- The name of the function. -/
  function : Text
  /-- The file and the line in it. -/
  location : Text
deriving DecidableEq

namespace Symbol

/-- The symbol in the output of a resolver program: its first line names the function and the
second, ended by a line feed or by the end of the output, the location. -/
def ofOutput? (output : Text) : Option Symbol :=
  match output.splitOn '\n' with
  | function :: location :: _ => some ⟨function, location⟩
  | _ => none

/-- What precedes the first line feed is the function, and the piece after it the location. -/
theorem ofOutput?_append {function : Text} (single : '\n' ∉ function) (rest : Text) :
    ofOutput? (function ++ '\n' :: rest) =
      (rest.splitOn '\n').head?.map (Symbol.mk function) := by
  unfold ofOutput?
  rw [List.splitOn_append_cons_self_of_not_mem single]
  cases rest.splitOn '\n' <;> rfl

/-- Output without a line feed holds no symbol. -/
theorem ofOutput?_of_single {output : Text} (single : '\n' ∉ output) :
    ofOutput? output = none := by
  rw [ofOutput?, List.splitOn_eq_singleton single]

end Symbol

/-- What is known about an address. -/
inductive Resolution where
  /-- The address lies in this place. -/
  | resolved (symbol : Symbol)
  /-- The address has no known place, as for firmware or a wild jump. -/
  | unresolved
deriving DecidableEq

/-- One lookup: an address in an artifact, by a resolver program. -/
structure Request where
  /-- The binary that holds the debug information. -/
  artifact : Path
  /-- The resolver program. -/
  resolver : Path
  /-- The address to look up. -/
  address : Address
deriving DecidableEq

/-- The resolver program could not be started. -/
structure LaunchFailure where
  /-- The program as it was named. -/
  program : Path
  /-- Why it did not start. -/
  cause : Fault
deriving DecidableEq

/-- The text of a launch failure, without its cause. -/
def LaunchFailure.message (failure : LaunchFailure) : Text :=
  "failed to launch resolver ".toList ++ failure.program.display

/-- A resolver's answer to one request and what it did to find it. -/
structure Reply where
  /-- The answer. -/
  outcome : Except LaunchFailure Resolution
  /-- What the resolver itself logged. -/
  records : List Record
  /-- The programs that it ran. -/
  invocations : List Invocation

/-- Anything that answers requests. -/
structure Resolver where
  /-- The name that log records give. -/
  name : Text
  /-- The reply to a request, after the given number of earlier ones. -/
  answer : Nat → Request → Reply

/-- A frame with its place in the source. -/
structure Entry where
  /-- The address of the frame. -/
  address : Address
  /-- Its place. -/
  symbol : Symbol
deriving DecidableEq

namespace Entry

/-- The entry as a line of text, without its end. -/
def text (entry : Entry) : Text :=
  entry.address.spelling ++ " - ".toList ++ entry.symbol.function ++ " @ ".toList ++
    entry.symbol.location

/-- Writes the entry as a line: its text, and then the line feed. -/
def write {σ : Type} [Writer σ] (entry : Entry) (writer : σ) : Written σ :=
  (Writer.writeAll writer (Utf8.encode entry.text)).andThen fun after =>
    Writer.writeAll after [lineFeed]

end Entry
end Backtrace
