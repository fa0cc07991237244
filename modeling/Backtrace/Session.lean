import Backtrace.Configuration.Derived
import Backtrace.Decoding
import Backtrace.Resolver.External

/-!
# Sessions

Choosing a configuration and decoding under it, as a user asks for both. A session adds to a run
what the user is told around it: a warning if the artifact is not a file, the counts of a run
that ended well, and the circumstances of an error.
-/

namespace Backtrace

/-- An error as the user meets it. -/
inductive SessionError where
  /-- The current directory, under which a configuration is looked for, is not known. -/
  | directory (fault : Fault)
  /-- No configuration could be derived under a root. -/
  | configuration (root : Path) (error : ConfigurationError)
  /-- Decoding under a configuration failed. -/
  | decoding (used : Configuration) (error : DecodeError)
deriving DecidableEq

namespace SessionError

/-- What was being done when an error arose. -/
def circumstance : SessionError → Text
  | directory _ => "Failed to get current directory".toList
  | configuration root _ =>
    "Failed to derive configuration from ".toList ++ root.display ++
      " (pass <path to kboot.elf> explicitly instead)".toList
  | decoding used _ =>
    "Failed to decode trace against ".toList ++ used.artifact.display ++
      " with ".toList ++ used.resolver.display

/-- The texts of what was met, from the error itself to the fault furthest behind it. -/
def causes : SessionError → List Text
  | directory fault => fault.chain
  | configuration _ error => error.message :: error.cause?.elim [] Fault.chain
  | decoding _ error => error.message :: error.cause.chain

/-- The texts of an error, from what was being done to the fault furthest behind it. -/
def chain (error : SessionError) : List Text := error.circumstance :: error.causes

/-- The texts of an error on one line. -/
def message (error : SessionError) : Text := (": ".toList).intercalate error.chain

end SessionError

/-- A finished session. -/
structure Session (σ : Type) where
  /-- The counts, or why the session failed. -/
  result : Except SessionError Summary
  /-- What it did. -/
  activity : Activity
  /-- The writer that it leaves behind. -/
  writer : σ

namespace Session

/-- The configuration for optional paths: with an artifact the paths are used as they are, and
without one the configuration is derived under the root and the resolver is not considered. -/
def configure (world : World) (root : Path) (artifact resolver : Option Path) :
    Except SessionError Configuration × List Record :=
  match artifact with
  | some artifact => (.ok (.ofPaths artifact resolver), [])
  | none =>
    match Configuration.derive world root with
    | (.ok configuration, records) => (.ok configuration, records)
    | (.error error, records) => (.error (.configuration root error), records)

/-- The warning about an artifact that is not a file. -/
def warnings (world : World) (configuration : Configuration) : List Record :=
  if world.isFile configuration.artifact then []
  else [.artifactMissing configuration.artifact]

variable {σ : Type} [Writer σ]

/-- Decodes an input with any resolver. -/
def decodeWith (resolver : Resolver) (world : World) (configuration : Configuration)
    (writer : σ) (input : List ReadEvent) : Session σ :=
  let run := Decoding.run resolver configuration writer input
  let before := Activity.ofRecords (warnings world configuration)
  match run.result with
  | .error error =>
    ⟨.error (.decoding configuration error), before ++ run.activity, run.writer⟩
  | .ok summary =>
    ⟨.ok summary, before ++ run.activity ++ .ofRecords [.finished summary], run.writer⟩

/-- Decodes an input with the program that the configuration names. -/
def decode (world : World) (configuration : Configuration) (writer : σ)
    (input : List ReadEvent) : Session σ :=
  decodeWith (.external world) world configuration writer input

end Session
end Backtrace
