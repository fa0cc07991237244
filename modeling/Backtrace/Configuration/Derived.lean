import Backtrace.Configuration
import Backtrace.Layout
import Backtrace.Options
import Backtrace.World

/-!
# Configurations derived from the cached options

Without explicit paths, the artifact is that of the variant that the options cache names, and
the resolver program is the default one with the tool prefix of the cache before it. Each way in
which a cache can fall short has its own error, and the first in order of reading is reported.
-/

namespace Backtrace

/-- An option that a derived configuration needs. -/
inductive Setting where
  /-- The build variant. -/
  | variant
  /-- The prefix of the names of the tools. -/
  | toolPrefix
deriving DecidableEq

/-- The name of a setting in the cache. -/
def Setting.key : Setting → Text
  | variant => "CONFIG".toList
  | toolPrefix => "CROSS_COMPILE".toList

/-- The value of a setting among the options. -/
def Options.setting? (options : Options) (setting : Setting) : Option Text :=
  options.get? setting.key

/-- Why no configuration can be derived. -/
inductive ConfigurationError where
  /-- The cache cannot be read as text. -/
  | unreadable (cache : Path) (fault : Fault)
  /-- The cache does not assign a setting. -/
  | unassigned (setting : Setting) (cache : Path)
  /-- The cache assigns an empty variant. -/
  | emptyVariant (cache : Path)
deriving DecidableEq

namespace ConfigurationError

/-- The text of an error, without its cause. -/
def message : ConfigurationError → Text
  | unreadable cache _ =>
    "Failed to read build configuration cache ".toList ++ cache.display
  | unassigned setting cache =>
    setting.key ++ " is not defined in ".toList ++ cache.display
  | emptyVariant cache => Setting.variant.key ++ " is empty in ".toList ++ cache.display

/-- The fault behind an error, where there is one. -/
def cause? : ConfigurationError → Option Fault
  | unreadable _ fault => some fault
  | unassigned .. => none
  | emptyVariant .. => none

end ConfigurationError

namespace Configuration

/-- The configuration of a variant under a root, with a tool prefix. -/
def ofVariant (root : Path) (variant toolPrefix : Text) : Configuration :=
  ⟨(Layout.ofVariant root variant).artifact, .ofText (toolPrefix ++ defaultResolver)⟩

/-- The configuration that options give under a root, with the variant they name. -/
def ofOptions (root : Path) (options : Options) :
    Except ConfigurationError (Text × Configuration) :=
  let cache := Layout.optionsCacheUnder root
  match options.setting? .variant with
  | none => .error (.unassigned .variant cache)
  | some [] => .error (.emptyVariant cache)
  | some variant =>
    match options.setting? .toolPrefix with
    | none => .error (.unassigned .toolPrefix cache)
    | some toolPrefix => .ok (variant, ofVariant root variant toolPrefix)

/-- The configuration that the options cache under a root gives, and what is logged about it. -/
def derive (world : World) (root : Path) :
    Except ConfigurationError Configuration × List Record :=
  match world.readText (Layout.optionsCacheUnder root) with
  | .error fault => (.error (.unreadable (Layout.optionsCacheUnder root) fault), [])
  | .ok text =>
    match ofOptions root (.ofText text) with
    | .error error => (.error error, [])
    | .ok (variant, configuration) =>
      (.ok configuration,
        [.configured variant configuration.artifact configuration.resolver])

end Configuration
end Backtrace
