import Backtrace.Symbol
import Backtrace.Text.Lines
import Backtrace.World

/-!
# Resolving with an external program

The resolver that runs a program once for each request, asking for the function as well as the
location, and reads its reply. A program that does not succeed, or says too little, leaves the
address unresolved; only a program that cannot be started is a failure.
-/

namespace Backtrace.Resolver

/-- The options before the artifact: the function name is wanted, and an artifact follows. -/
def leadingArguments : List Bytes := [Utf8.encode "-f".toList, Utf8.encode "-e".toList]

/-- The run of the resolver program that a request asks for. -/
def invocation (request : Request) : Invocation :=
  ⟨request.resolver,
    leadingArguments ++ [request.artifact.bytes, Utf8.encode request.address.spelling]⟩

/-- The first line of error output, without blanks around it. -/
def complaint (stderr : Bytes) : Text :=
  ((Utf8.decodeLossy stderr).lines.head?.getD []).trim

/-- What a finished resolver program says about an address, and what is logged about it. -/
def interpret (address : Address) (completion : Completion) : Resolution × List Record :=
  if completion.status.isSuccess then
    let output := Utf8.decodeLossy completion.stdout
    match Symbol.ofOutput? output with
    | some symbol => (.resolved symbol, [])
    | none => (.unresolved, [.shortOutput address output])
  else
    (.unresolved, [.resolverFailed address completion.status (complaint completion.stderr)])

/-- Answers a request, after a number of earlier ones, by running its resolver program in a
world. -/
def ask (world : World) (asked : Nat) (request : Request) : Reply :=
  match world.start asked (invocation request) with
  | .error fault => ⟨.error ⟨request.resolver, fault⟩, [], []⟩
  | .ok completion =>
    let interpreted := interpret request.address completion
    ⟨.ok interpreted.1, interpreted.2, [invocation request]⟩

/-- The resolver that runs the program named in each request. -/
def external (world : World) : Resolver := ⟨"addr2line".toList, ask world⟩

end Backtrace.Resolver
