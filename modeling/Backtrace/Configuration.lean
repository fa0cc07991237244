import Backtrace.Symbol

/-!
# Configurations

Which artifact the addresses of a run belong to and which program resolves them. Two
configurations are the same when both paths are the same as paths.
-/

namespace Backtrace

/-- The resolver program that is used when none is given, found by its bare name. -/
def defaultResolver : Text := "addr2line".toList

/-- The artifact and the resolver program of a run. -/
structure Configuration where
  /-- The binary that holds the debug information. -/
  artifact : Path
  /-- The resolver program, by path or by bare name. -/
  resolver : Path
deriving DecidableEq

namespace Configuration

/-- The configuration that explicit paths give. -/
def ofPaths (artifact : Path) (resolver : Option Path) : Configuration :=
  ⟨artifact, resolver.getD (.ofText defaultResolver)⟩

/-- Both paths are the same as paths. -/
def sameAs (left right : Configuration) : Bool :=
  left.artifact.sameAs right.artifact && left.resolver.sameAs right.resolver

/-- The lookup of an address under this configuration. -/
def request (configuration : Configuration) (address : Address) : Request :=
  ⟨configuration.artifact, configuration.resolver, address⟩

end Configuration
end Backtrace
