import Backtrace.Proofs.CommandLine.Outcome
import Backtrace.Proofs.Configuration.Classification
import Backtrace.Proofs.Options.LastAssigned
import Backtrace.World.FileTree

/-!
# The explicit form of an invocation

An options cache that names a variant and a tool prefix stands for two paths. Given these paths
as operands, after the word that ends the flags, the program does what it does without operands.
It only does not log that it looked into the cache.
-/

namespace Backtrace

namespace CommandLine

variable {parser : ArgumentParser} {log : Logger} {world : World}

end CommandLine
end Backtrace
