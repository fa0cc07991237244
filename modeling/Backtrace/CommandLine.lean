import Backtrace.CommandLine.Arguments
import Backtrace.CommandLine.Usage
import Backtrace.Session
import Backtrace.Writer.Buffered
import Backtrace.Writer.StandardOutput

/-!
# The command line

The whole program as a function of its argument line, the world and its input. A request for
help and refused arguments are settled before anything else; then the configuration is chosen,
before any input is read; then the input is decoded to standard output, through a buffer that is
given up when decoding returns. What the program logs goes to standard error, before what it says
there itself. The parser of the argument line and the logger are parameters; the logger decides
which records it shows, and in which form, with the time and the origin that it adds.
-/

namespace Backtrace

/-- What a logger writes to standard error for a record. -/
abbrev Logger := Record → Bytes

/-- Without a filter that the user sets, a logger shows errors only. -/
def Logger.Unfiltered (log : Logger) : Prop := ∀ record, record.level ≠ .error → log record = []

/-- An unfiltered logger shows no record of the program. -/
theorem Logger.Unfiltered.silent {log : Logger} (unfiltered : log.Unfiltered)
    (records : List Record) : records.flatMap log = [] :=
  List.flatMap_eq_nil_iff.2 fun record _ => unfiltered record record.level_ne_error

namespace CommandLine

/-- Exit code of a run that ended well. -/
def success : Nat := 0

/-- Exit code of help, refused arguments and errors. -/
def failure : Nat := 1

/-- What the program leaves behind. -/
structure Outcome where
  /-- The exit code. -/
  exit : Nat
  /-- Standard output. -/
  stdout : Bytes
  /-- Standard error. -/
  stderr : Bytes
  /-- The resolver programs that were run. -/
  invocations : List Invocation
deriving DecidableEq

/-- The end of the program: what standard output still holds is passed on, whatever the code. -/
def exit (code : Nat) (output : StandardOutput) (stderr : Bytes) (invocations : List Invocation) :
    Outcome :=
  ⟨code, output.release.buffer.inner.received, stderr, invocations⟩

/-- Where nothing was printed nothing comes out. -/
@[simp] theorem exit_empty (code : Nat) (stderr : Bytes) (invocations : List Invocation) :
    exit code .empty stderr invocations = ⟨code, [], stderr, invocations⟩ := by
  have nothing : StandardOutput.empty.buffer.passOn = (.ok (), .new ⟨[]⟩) :=
    Buffered.passOn_of_empty rfl
  rw [exit, StandardOutput.release, nothing]
  rfl

/-- The bytes that the buffer before standard output has room for. -/
def bufferSize : Nat := 8192

/-- The buffer before standard output when decoding starts. -/
def buffer : Buffered bufferSize StandardOutput := .new .empty

/-- The text that standard error has for an error. -/
def complaint (error : SessionError) : Text :=
  "error: ".toList ++ error.message ++ ['\n']

/-- A configuration that the program settles on, and what it logs in doing so. -/
structure Prepared where
  /-- The configuration. -/
  configuration : Configuration
  /-- The records. -/
  records : List Record

/-- The configuration for optional paths, in the current directory. -/
def configure (world : World) (arguments : Arguments) :
    Except SessionError Configuration × List Record :=
  match world.directory with
  | .error fault => (.error (.directory fault), [])
  | .ok root => Session.configure world root arguments.artifact arguments.resolver

/-- What the program does before it reads any input: it settles on a configuration, or on its
whole outcome. -/
def prepare (parser : ArgumentParser) (log : Logger) (line : List Bytes) (world : World) :
    Except Outcome Prepared :=
  let program := Usage.programName line
  if Arguments.asksForHelp line then
    let printed := Writer.writeAll StandardOutput.empty (Utf8.encode (Usage.help program))
    .error (exit failure printed.writer [] [])
  else
    match parser line with
    | .error reason =>
      .error (exit failure .empty
        (log (.argumentsRefused reason) ++ Utf8.encode (Usage.refusal program)) [])
    | .ok arguments =>
      match configure world arguments with
      | (.error error, records) =>
        .error (exit failure .empty (records.flatMap log ++ Utf8.encode (complaint error)) [])
      | (.ok configuration, records) => .ok ⟨configuration, records⟩

/-- Decodes under a configuration. The buffer is given up before the program says anything. -/
def decode (log : Logger) (world : World) (prepared : Prepared) (input : List ReadEvent) :
    Outcome :=
  let session := Session.decode world prepared.configuration buffer input
  let output := session.writer.close
  let logged := (prepared.records ++ session.activity.records).flatMap log
  match session.result with
  | .ok _ => exit success output logged session.activity.invocations
  | .error error =>
    exit failure output (logged ++ Utf8.encode (complaint error)) session.activity.invocations

/-- Runs the program for an argument line, the program's own name included. -/
def run (parser : ArgumentParser) (log : Logger) (line : List Bytes) (world : World)
    (input : List ReadEvent) : Outcome :=
  match prepare parser log line world with
  | .error outcome => outcome
  | .ok prepared => decode log world prepared input

/-- What is settled before any input is read does not depend on the input. -/
theorem run_of_prepare_error {parser : ArgumentParser} {log : Logger} {line : List Bytes}
    {world : World} {outcome : Outcome} (settled : prepare parser log line world = .error outcome)
    (input : List ReadEvent) : run parser log line world input = outcome := by
  rw [run, settled]

/-- With a configuration the input is decoded under it. -/
theorem run_of_prepare_ok {parser : ArgumentParser} {log : Logger} {line : List Bytes}
    {world : World} {prepared : Prepared} (chosen : prepare parser log line world = .ok prepared)
    (input : List ReadEvent) :
    run parser log line world input = decode log world prepared input := by
  rw [run, chosen]

end CommandLine
end Backtrace
