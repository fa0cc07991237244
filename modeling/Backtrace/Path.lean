import Backtrace.Text.Utf8

/-!
# Paths

A path is a sequence of bytes. Its parts stand between slashes. Two paths name the same place,
as far as the text shows, when they have the same components: repeated slashes, a slash at the
end and the part `.` anywhere but at the start do not count. Joining is textual.
-/

namespace Backtrace

/-- The byte that separates the parts of a path. -/
def slash : UInt8 := 0x2F

/-- The part that names the directory it stands in. -/
def dot : Bytes := [0x2E]

/-- The part that names the directory above. -/
def dotDot : Bytes := [0x2E, 0x2E]

/-- The name of a file or directory. -/
structure Path where
  /-- The bytes as written. -/
  bytes : Bytes
deriving DecidableEq

namespace Path

/-- The path that a text spells. -/
def ofText (text : Text) : Path := ⟨Utf8.encode text⟩

/-- The path as a message shows it. -/
def display (path : Path) : Text := Utf8.decodeLossy path.bytes

/-- An absolute path starts with a slash. -/
def isAbsolute (path : Path) : Bool := path.bytes.head? == some slash

/-- The parts of a path: what stands between its slashes, empty parts included. -/
def parts (path : Path) : List Bytes := path.bytes.splitOn slash

/-- The second path as seen from the first. An absolute second path is kept as it is; otherwise
it follows the first, after a slash if the first is not empty and does not end in one. -/
def join (base addition : Path) : Path :=
  if addition.isAbsolute then addition
  else if base.bytes.isEmpty || base.bytes.getLast? == some slash then
    ⟨base.bytes ++ addition.bytes⟩
  else ⟨base.bytes ++ slash :: addition.bytes⟩

/-- An absolute path replaces the path before it. -/
theorem join_of_isAbsolute {addition : Path} (absolute : addition.isAbsolute = true)
    (base : Path) : base.join addition = addition := by
  simp [join, absolute]

/-- One step of a path. -/
inductive Component where
  /-- The root of the file system. -/
  | root
  /-- The directory that a relative path explicitly starts from. -/
  | current
  /-- The directory above. -/
  | parent
  /-- A file or directory by name. -/
  | name (bytes : Bytes)
deriving DecidableEq

/-- The component of a part after the start of a path; empty parts and `.` have none. -/
def componentOfPart (part : Bytes) : Option Component :=
  if part = [] ∨ part = dot then none
  else if part = dotDot then some .parent
  else some (.name part)

/-- The component that only the start of a path has: the root of an absolute path, or the
explicit `.` of a relative one. -/
def leading (path : Path) : List Component :=
  if path.isAbsolute then [.root]
  else if path.parts.head? = some dot then [.current]
  else []

/-- The components of a path, from its start. -/
def components (path : Path) : List Component :=
  path.leading ++ path.parts.filterMap componentOfPart

/-- Two paths with the same components. -/
def sameAs (left right : Path) : Bool := left.components == right.components

/-- Paths are the same exactly when their components are. -/
theorem sameAs_iff {left right : Path} :
    left.sameAs right = true ↔ left.components = right.components := by
  simp [sameAs]

/-- The name at the end of a path; none for a root, a directory above, and an empty path. -/
def fileName? (path : Path) : Option Bytes :=
  match path.components.getLast? with
  | some (.name bytes) => some bytes
  | _ => none

end Path
end Backtrace
