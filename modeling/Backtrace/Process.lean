import Backtrace.Path

/-!
# Processes

What is asked of a program that is run once, and what it leaves behind: how it ended and the
bytes it wrote. Its standard input is empty.
-/

namespace Backtrace

/-- How a process ended. -/
inductive ExitStatus where
  /-- The process ended itself with a code of one byte. -/
  | exited (code : UInt8)
  /-- A signal ended the process, which may have left an image of its memory. -/
  | signalled (signal : Nat) (dumpedCore : Bool)
deriving DecidableEq

namespace ExitStatus

/-- A process succeeds when it ends itself with the code zero. -/
def isSuccess (status : ExitStatus) : Bool := status == .exited 0

/-- The names of the signals that have one, from signal one on. -/
def signalNames : List String :=
  ["SIGHUP", "SIGINT", "SIGQUIT", "SIGILL", "SIGTRAP", "SIGABRT", "SIGBUS", "SIGFPE", "SIGKILL",
   "SIGUSR1", "SIGSEGV", "SIGUSR2", "SIGPIPE", "SIGALRM", "SIGTERM", "SIGSTKFLT", "SIGCHLD",
   "SIGCONT", "SIGSTOP", "SIGTSTP", "SIGTTIN", "SIGTTOU", "SIGURG", "SIGXCPU", "SIGXFSZ",
   "SIGVTALRM", "SIGPROF", "SIGWINCH", "SIGIO", "SIGPWR", "SIGSYS"]

/-- The name of a signal; real-time signals have none. -/
def signalName? : Nat → Option Text
  | 0 => none
  | before + 1 => (signalNames[before]?).map String.toList

/-- The status in words. -/
def describe : ExitStatus → Text
  | exited code => "exit status: ".toList ++ Nat.toDigits 10 code.toNat
  | signalled signal dumpedCore =>
    let name :=
      match signalName? signal with
      | some name => " (".toList ++ name ++ ")".toList
      | none => []
    "signal: ".toList ++ Nat.toDigits 10 signal ++ name ++
      if dumpedCore then " (core dumped)".toList else []

end ExitStatus

/-- One run of a program: its name and its arguments. -/
structure Invocation where
  /-- The program, by path or by bare name. -/
  program : Path
  /-- The arguments after the name. -/
  arguments : List Bytes
deriving DecidableEq

/-- The invocation holds a zero byte, so that no system call can express it. -/
def Invocation.hasZeroByte (invocation : Invocation) : Bool :=
  invocation.program.bytes.contains 0 || invocation.arguments.any (·.contains 0)

/-- What a process that was started leaves behind. -/
structure Completion where
  /-- How it ended. -/
  status : ExitStatus
  /-- What it wrote to standard output. -/
  stdout : Bytes
  /-- What it wrote to standard error. -/
  stderr : Bytes
deriving DecidableEq

end Backtrace
