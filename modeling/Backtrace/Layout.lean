import Backtrace.Path

/-!
# Layout of a source tree

Where a source tree keeps its cached options and where a build of one variant puts the loader
image. The layout follows from the root and the variant alone.
-/

namespace Backtrace

/-- The places that matter in a source tree, for one build variant. -/
structure Layout where
  /-- The root of the source tree. -/
  root : Path
  /-- The cached options of the build. -/
  optionsCache : Path
  /-- The directory of the variant's build. -/
  variantDirectory : Path
  /-- The loader image of the variant. -/
  artifact : Path
deriving DecidableEq

namespace Layout

/-- The cached options under a root. -/
def optionsCacheUnder (root : Path) : Path := root.join (.ofText ".options.cache".toList)

/-- The layout of a variant under a root. -/
def ofVariant (root : Path) (variant : Text) : Layout :=
  let directory := (root.join (.ofText "build".toList)).join (.ofText variant)
  { root := root
    optionsCache := optionsCacheUnder root
    variantDirectory := directory
    artifact := (directory.join (.ofText "source".toList)).join (.ofText "kboot.elf".toList) }

end Layout
end Backtrace
