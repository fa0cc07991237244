import Backtrace.Configuration.Derived
import Backtrace.Proofs.Path.Components

/-!
# Components of a layout

The places of a layout as lists of components: each is the root with fixed names and the variant
after it, whatever slashes and dots the root and the variant are spelled with. An absolute variant
is a place of its own. Roots and variants that are the same as paths have artifacts that are the
same, and so have the configurations that name them.
-/

namespace Backtrace.Layout

open Backtrace.Path Backtrace.Path.Component

variable {root other : Path} {variant same : Text}

/-- The cached options stand directly under the root. -/
theorem components_optionsCacheUnder (root : Path) : (optionsCacheUnder root).components =
    root.components ++ [.ofText ".options.cache".toList] := by
  have name : (Path.ofText ".options.cache".toList).components =
      [.ofText ".options.cache".toList] := by decide
  rw [optionsCacheUnder, components_join, name, joined_ofText]

/-- The builds stand directly under the root. -/
theorem components_builds (root : Path) : (root.join (.ofText "build".toList)).components =
    root.components ++ [.ofText "build".toList] := by
  have name : (Path.ofText "build".toList).components = [.ofText "build".toList] := by decide
  rw [components_join, name, joined_ofText]

/-- The directory of a relative variant stands under the builds. -/
theorem components_variantDirectory (relative : variant.head? ≠ some '/') :
    (ofVariant root variant).variantDirectory.components =
      root.components ++ [.ofText "build".toList] ++
        afterCurrent (Path.ofText variant).components := by
  have unrooted : (Path.ofText variant).components.head? ≠ some .root :=
    fun rooted => relative (isAbsolute_ofText_iff.1 (isAbsolute_iff.2 rooted))
  change ((root.join (.ofText "build".toList)).join (.ofText variant)).components = _
  rw [components_join, components_builds]
  exact joined_of_relative (List.concat_ne_nil _ _) unrooted

/-- An absolute variant is its own directory. -/
theorem variantDirectory_of_absolute (absolute : variant.head? = some '/') (root : Path) :
    (ofVariant root variant).variantDirectory = .ofText variant :=
  join_of_isAbsolute (isAbsolute_ofText_iff.2 absolute) _

/-- The artifact has a fixed place in the directory of the variant. -/
theorem components_artifact (root : Path) (variant : Text) :
    (ofVariant root variant).artifact.components =
      (ofVariant root variant).variantDirectory.components ++
        [.ofText "source".toList, .ofText "kboot.elf".toList] := by
  have source : (Path.ofText "source".toList).components = [.ofText "source".toList] := by decide
  have image : (Path.ofText "kboot.elf".toList).components = [.ofText "kboot.elf".toList] := by
    decide
  change (((ofVariant root variant).variantDirectory.join (.ofText "source".toList)).join
    (.ofText "kboot.elf".toList)).components = _
  rw [components_join, components_join, source, image, joined_ofText, joined_ofText,
    List.append_assoc]
  rfl

/-- Same roots and same variants have the same artifact. -/
theorem sameAs_artifact (roots : root.sameAs other = true)
    (variants : (Path.ofText variant).sameAs (.ofText same) = true) :
    (ofVariant root variant).artifact.sameAs (ofVariant other same).artifact = true := by
  have itself : ∀ path : Path, path.sameAs path = true := fun path => sameAs_iff.2 rfl
  have builds : (root.join (.ofText "build".toList)).sameAs
      (other.join (.ofText "build".toList)) = true := sameAs_join roots (itself _)
  have directories : (ofVariant root variant).variantDirectory.sameAs
      (ofVariant other same).variantDirectory = true := sameAs_join builds variants
  exact sameAs_join (sameAs_join directories (itself _)) (itself _)

/-- Configurations for same roots and same variants with one tool prefix are the same. -/
theorem sameAs_configuration (roots : root.sameAs other = true)
    (variants : (Path.ofText variant).sameAs (.ofText same) = true) (toolPrefix : Text) :
    (Configuration.ofVariant root variant toolPrefix).sameAs
      (Configuration.ofVariant other same toolPrefix) = true := by
  have artifacts : (ofVariant root variant).artifact.sameAs
      (ofVariant other same).artifact = true := sameAs_artifact roots variants
  have resolvers : (Path.ofText (toolPrefix ++ defaultResolver)).sameAs
      (.ofText (toolPrefix ++ defaultResolver)) = true := sameAs_iff.2 rfl
  rw [Configuration.sameAs, Bool.and_eq_true]
  exact ⟨artifacts, resolvers⟩

/-- The places of a layout by their components. A variant that starts with a slash is its own
directory, and any other lies with the builds under the root. Roots and variants that are the same
as paths have the same places. -/
theorem places_by_components (root : Path) (variant : Text) :
    let layout := ofVariant root variant
    let place := Path.ofText variant
    let name := fun text : String => Component.ofText text.toList
    layout.optionsCache.components = root.components ++ [name ".options.cache"] ∧
      layout.artifact.components =
        layout.variantDirectory.components ++ [name "source", name "kboot.elf"] ∧
      (variant.head? ≠ some '/' → layout.variantDirectory.components =
        root.components ++ [name "build"] ++ afterCurrent place.components) ∧
      (variant.head? = some '/' → layout.variantDirectory = place ∧
        ∀ other, (ofVariant other variant).artifact = layout.artifact) ∧
      ∀ other same, root.sameAs other = true → place.sameAs (.ofText same) = true →
        layout.artifact.sameAs (ofVariant other same).artifact = true ∧
          ∀ toolPrefix, (Configuration.ofVariant root variant toolPrefix).sameAs
            (Configuration.ofVariant other same toolPrefix) = true := by
  intro layout place name
  refine ⟨components_optionsCacheUnder root, components_artifact root variant,
    components_variantDirectory, ?_, ?_⟩
  · intro absolute
    have directory : ∀ other, (ofVariant other variant).variantDirectory = place :=
      variantDirectory_of_absolute absolute
    refine ⟨directory root, fun other => ?_⟩
    change ((ofVariant other variant).variantDirectory.join (.ofText "source".toList)).join
      (.ofText "kboot.elf".toList) = (layout.variantDirectory.join (.ofText "source".toList)).join
      (.ofText "kboot.elf".toList)
    rw [directory other, directory root]
  · intro other same roots variants
    exact ⟨sameAs_artifact roots variants, sameAs_configuration roots variants⟩

/-- A root and a variant that both start with a dot and end with a slash, the same ones spelled
with other slashes and dots, and an absolute variant under both roots. -/
theorem places_by_components_dotted :
    let root := Path.ofText "./a//".toList
    let other := Path.ofText "./a/.".toList
    let variant : Text := "./../b/".toList
    let same : Text := ".//..//b/.".toList
    let absolute : Text := "/b".toList
    let name := fun text : String => Component.ofText text.toList
    (ofVariant root variant).variantDirectory.components =
        [.current, name "a", name "build", .parent, name "b"] ∧
      (ofVariant root variant).artifact ≠ (ofVariant other same).artifact ∧
      (ofVariant root variant).artifact.sameAs (ofVariant other same).artifact = true ∧
      (Configuration.ofVariant root variant "x-".toList).sameAs
        (Configuration.ofVariant other same "x-".toList) = true ∧
      (ofVariant other absolute).artifact = (ofVariant root absolute).artifact := by
  intro root other variant same absolute name
  obtain ⟨-, -, relative, -, agreeing⟩ := places_by_components root variant
  obtain ⟨-, -, -, alone, -⟩ := places_by_components root absolute
  have roots : root.sameAs other = true := by decide
  have variants : (Path.ofText variant).sameAs (.ofText same) = true := by decide
  obtain ⟨artifacts, configurations⟩ := agreeing other same roots variants
  have directory := relative (by decide)
  have parts : root.components ++ [name "build"] ++ afterCurrent (Path.ofText variant).components =
      [.current, name "a", name "build", .parent, name "b"] := by decide
  exact ⟨directory.trans parts, by decide, artifacts, configurations _, (alone rfl).2 other⟩

end Backtrace.Layout
