import Backtrace.Proofs.Options.Grammar
import Backtrace.Proofs.Text.Characters
import Backtrace.Session
import Backtrace.World.FileTree

/-!
# The five outcomes of deriving a configuration

Deriving a configuration reads one file and has five outcomes: the file is no text, the variant is
not assigned, the variant is empty, the tool prefix is not assigned, or there is a configuration.
Each has its own condition on the bytes of the file and on what their text records. The main
statement is that the outcome is the one whose condition holds, that nothing else in the world has
a say in it, and that a session that fails adds what it was doing and nothing more.
-/

namespace Backtrace

open Options

namespace World

/-- The bytes of the file are the text in UTF-8. -/
def HoldsText (world : World) (path : Path) (text : Text) : Prop :=
  world.readBytes path = .ok (Utf8.encode text)

/-- The file gives no bytes for this reason, or its bytes are those of no text. -/
def RefusesText (world : World) (path : Path) (fault : Fault) : Prop :=
  world.readBytes path = .error fault ∨
    fault = .notText ∧ ∃ bytes, world.readBytes path = .ok bytes ∧ ∀ text, bytes ≠ Utf8.encode text

variable {world : World} {path : Path}

/-- A text is read from a file exactly if the file holds it. -/
theorem readText_eq_ok_iff {text : Text} :
    world.readText path = .ok text ↔ world.HoldsText path text := by
  unfold readText HoldsText
  cases world.readBytes path with
  | error fault => simp
  | ok bytes =>
    rw [Except.ok.injEq, ← Utf8.decode?_eq_some_iff]
    dsimp only
    cases Utf8.decode? bytes <;> simp

/-- Reading text fails exactly if the file refuses it. -/
theorem readText_eq_error_iff {fault : Fault} :
    world.readText path = .error fault ↔ world.RefusesText path fault := by
  unfold readText RefusesText
  cases world.readBytes path with
  | error reason => simp
  | ok bytes =>
    have unreadable : Utf8.decode? bytes = none ↔ ∀ text, bytes ≠ Utf8.encode text := by
      simp only [Option.eq_none_iff_forall_ne_some, ne_eq, Utf8.decode?_eq_some_iff]
    simp only [reduceCtorEq, Except.ok.injEq, exists_eq_left', false_or, ← unreadable]
    cases Utf8.decode? bytes with
    | none => simp [eq_comm]
    | some text => simp

end World

namespace Configuration

/-- Which configuration or error, and which records, the file of cached options under a root comes
to. The conditions are those of the five outcomes in the order in which they are met. -/
inductive Derives (world : World) (root cache : Path) :
    Except ConfigurationError Configuration → List Record → Prop where
  /-- The file is no text. -/
  | unreadable {fault : Fault} (refused : world.RefusesText cache fault) :
    Derives world root cache (.error (.unreadable cache fault)) []
  /-- The variant is not assigned, whether or not the tool prefix is. -/
  | variantUnassigned {text : Text} (cached : world.HoldsText cache text)
    (omitted : Omits text "CONFIG".toList) :
    Derives world root cache (.error (.unassigned .variant cache)) []
  /-- The variant is assigned last to be empty, whether or not the tool prefix is assigned. -/
  | variantEmpty {text : Text} (cached : world.HoldsText cache text)
    (recorded : Records text "CONFIG".toList []) :
    Derives world root cache (.error (.emptyVariant cache)) []
  /-- There is a variant, and the tool prefix is not assigned. -/
  | prefixUnassigned {text variant : Text} (cached : world.HoldsText cache text)
    (recorded : Records text "CONFIG".toList variant) (nonempty : variant ≠ [])
    (omitted : Omits text "CROSS_COMPILE".toList) :
    Derives world root cache (.error (.unassigned .toolPrefix cache)) []
  /-- There are a variant and a tool prefix, which may be empty. -/
  | derived {text variant toolPrefix : Text} (cached : world.HoldsText cache text)
    (recorded : Records text "CONFIG".toList variant) (nonempty : variant ≠ [])
    (prefixed : Records text "CROSS_COMPILE".toList toolPrefix) {artifact resolver : Path}
    (located : artifact = (Layout.ofVariant root variant).artifact)
    (named : resolver = ⟨Utf8.encode (toolPrefix ++ "addr2line".toList)⟩) :
    Derives world root cache (.ok ⟨artifact, resolver⟩) [.configured variant artifact resolver]

variable {world : World} {root : Path}

/-- What is derived is one of the five outcomes, and its condition holds. -/
theorem derives_derive (world : World) (root : Path) :
    Derives world root (Layout.optionsCacheUnder root) (derive world root).1
      (derive world root).2 := by
  unfold derive
  cases read : world.readText (Layout.optionsCacheUnder root) with
  | error fault => exact .unreadable (World.readText_eq_error_iff.1 read)
  | ok text =>
    have cached := World.readText_eq_ok_iff.1 read
    dsimp only [ofOptions]
    cases chosen : (ofText text).setting? .variant with
    | none => exact .variantUnassigned cached ((setting?_ofText_iff_omits .variant).1 chosen)
    | some variant =>
      have recorded := (setting?_ofText_iff_records .variant).1 chosen
      cases variant with
      | nil => exact .variantEmpty cached recorded
      | cons first rest =>
        have nonempty : first :: rest ≠ [] := List.cons_ne_nil _ _
        dsimp only
        cases prefixed : (ofText text).setting? .toolPrefix with
        | none =>
          have omitted := (setting?_ofText_iff_omits .toolPrefix).1 prefixed
          exact .prefixUnassigned cached recorded nonempty omitted
        | some toolPrefix =>
          have assigned := (setting?_ofText_iff_records .toolPrefix).1 prefixed
          exact .derived cached recorded nonempty assigned rfl rfl

/-- The outcome whose condition holds is what is derived. -/
theorem derive_of_derives {result : Except ConfigurationError Configuration}
    {records : List Record}
    (derives : Derives world root (Layout.optionsCacheUnder root) result records) :
    derive world root = (result, records) := by
  cases derives with
  | unreadable refused => simp only [derive, World.readText_eq_error_iff.2 refused]
  | variantUnassigned cached omitted =>
    have chosen := (setting?_ofText_iff_omits .variant).2 omitted
    simp only [derive, World.readText_eq_ok_iff.2 cached, ofOptions, chosen]
  | variantEmpty cached recorded =>
    have chosen := (setting?_ofText_iff_records .variant).2 recorded
    simp only [derive, World.readText_eq_ok_iff.2 cached, ofOptions, chosen]
  | prefixUnassigned cached recorded nonempty omitted =>
    have chosen := (setting?_ofText_iff_records .variant).2 recorded
    have prefixed := (setting?_ofText_iff_omits .toolPrefix).2 omitted
    simp only [derive, World.readText_eq_ok_iff.2 cached, ofOptions, chosen, prefixed]
  | derived cached recorded nonempty assigned located named =>
    have chosen := (setting?_ofText_iff_records .variant).2 recorded
    have prefixed := (setting?_ofText_iff_records .toolPrefix).2 assigned
    subst located named
    simp only [derive, World.readText_eq_ok_iff.2 cached, ofOptions, chosen, prefixed]
    rfl

/-- A configuration is derived with one record for information; an error is not recorded. -/
theorem level_of_derives {cache : Path} {result : Except ConfigurationError Configuration}
    {records : List Record} (derives : Derives world root cache result records) :
    records.map Record.level = if result.isOk then [.info] else [] := by
  cases derives <;> rfl

/-- Where reading the file comes to the same, the same is derived. -/
theorem derive_congr {other : World}
    (same : other.readText (Layout.optionsCacheUnder root) =
      world.readText (Layout.optionsCacheUnder root)) : derive other root = derive world root := by
  unfold derive
  rw [same]

end Configuration

/-- A session without an artifact derives its configuration, and adds the root to an error. -/
theorem Session.configure_none (world : World) (root : Path) (resolver : Option Path) :
    configure world root none resolver =
      ((Configuration.derive world root).1.mapError (.configuration root),
        (Configuration.derive world root).2) := by
  unfold configure
  dsimp only
  rcases Configuration.derive world root with ⟨error | configuration, records⟩ <;> rfl

namespace Configuration

/-- What is derived from the file `.options.cache` is the one of the five outcomes whose condition
holds, and depends on nothing else in the world. A session without an artifact comes to this too,
and one with an artifact takes its paths as they are. -/
theorem derive_iff_derives (world : World) (root : Path) :
    let cache := root.join (.ofText ".options.cache".toList)
    (∀ result records,
        derive world root = (result, records) ↔ Derives world root cache result records) ∧
      ((derive world root).2.map Record.level =
        if (derive world root).1.isOk then [.info] else []) ∧
      (∀ other : World, other.readText cache = world.readText cache →
        derive other root = derive world root) ∧
      (∀ resolver, Session.configure world root none resolver =
        ((derive world root).1.mapError (.configuration root), (derive world root).2)) ∧
      (∀ error, (SessionError.configuration root error).chain =
        ("Failed to derive configuration from ".toList ++ root.display ++
          " (pass <path to kboot.elf> explicitly instead)".toList) ::
            error.message :: error.cause?.elim [] Fault.chain) ∧
      ∀ artifact resolver, Session.configure world root (some artifact) resolver =
        (.ok ⟨artifact, resolver.getD (.ofText "addr2line".toList)⟩, []) := by
  intro cache
  have derives : Derives world root cache (derive world root).1 (derive world root).2 :=
    derives_derive world root
  refine ⟨fun result records => ⟨?_, derive_of_derives⟩, level_of_derives derives,
    fun other => derive_congr, Session.configure_none world root, fun error => rfl,
    fun artifact resolver => rfl⟩
  intro same
  rw [same] at derives
  exact derives

/-- A cache whose last variant replaces an empty one and whose prefix is empty, read from an empty
root in two worlds, of which only one has the artifact. -/
theorem derive_iff_derives_unprefixed :
    let text : Text := "CONFIG = ''\nCROSS_COMPILE=\n= 'x'\nCONFIG = \"efi/é\"\r\n".toList
    let cache : Path := .ofText ".options.cache".toList
    let artifact : Path := .ofText "build/efi/é/source/kboot.elf".toList
    let resolver : Path := .ofText "addr2line".toList
    let files : List (Path × Node) := [(cache, .file (Utf8.encode text))]
    let world := (FileTree.ofListing (.ofText "/work".toList) files).world
    let other := (FileTree.ofListing (.ofText "/srv".toList) ((artifact, .file []) :: files)).world
    let root : Path := ⟨[]⟩
    other.readText cache = world.readText cache ∧
      Derives world root cache (.ok ⟨artifact, resolver⟩)
        [.configured "efi/é".toList artifact resolver] ∧
      derive world root =
        (.ok ⟨artifact, resolver⟩, [.configured "efi/é".toList artifact resolver]) ∧
      derive other root = derive world root ∧
      (Session.configure other root none (some cache)).1 = .ok ⟨artifact, resolver⟩ := by
  intro text cache artifact resolver files world other root
  have same : other.readText cache = world.readText cache := by decide +kernel
  have read : world.readText cache = .ok text := by decide +kernel
  have recorded : Records text "CONFIG".toList "efi/é".toList :=
    get?_ofText_iff_records.1 (by decide +kernel)
  have prefixed : Records text "CROSS_COMPILE".toList [] :=
    get?_ofText_iff_records.1 (by decide +kernel)
  have derives : Derives world root cache (.ok ⟨artifact, resolver⟩)
      [.configured "efi/é".toList artifact resolver] :=
    .derived (World.readText_eq_ok_iff.1 read) recorded (by decide) prefixed (by decide +kernel)
      (by decide +kernel)
  obtain ⟨outcome, -, agreeing, -⟩ := derive_iff_derives world root
  obtain ⟨-, -, -, sessions, -⟩ := derive_iff_derives other root
  have derived := (outcome _ _).2 derives
  refine ⟨same, derives, derived, agreeing other same, ?_⟩
  rw [sessions, agreeing other same, derived]
  rfl

end Configuration
end Backtrace
