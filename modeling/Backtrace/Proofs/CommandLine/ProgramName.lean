import Backtrace.CommandLine.Usage
import Backtrace.Proofs.Path.FileName
import Backtrace.Proofs.Text.Characters

/-!
# The name of the program

The program speaks of itself under the last name in the path under which it was started, shown as
text, and under a fixed name where that path has none. The main statement reads the name off the
end of the bytes, whatever they are. However the program was started, the name is a text that is
not empty and holds no slash.
-/

namespace Backtrace.Usage

open Backtrace.Path

variable {started : Bytes}

/-- A path with a name at its end gives the program this name. -/
theorem programName_of_some {name : Bytes} (named : fileName? ⟨started⟩ = some name)
    (others : List Bytes) : programName (started :: others) = Utf8.decodeLossy name := by
  simp only [programName, List.head?_cons, Option.bind_some, named]

/-- A path without a name leaves the program its own. -/
theorem programName_of_none (nameless : fileName? ⟨started⟩ = none) (others : List Bytes) :
    programName (started :: others) = fallbackName := by
  simp only [programName, List.head?_cons, Option.bind_some, nameless]

/-- The name of the program is the last part of the trimmed path, unless that part is nameless. -/
theorem programName_eq (started : Bytes) (others : List Bytes) :
    programName (started :: others) =
      if IsNameless (lastPart (trimmed started)) then fallbackName
      else Utf8.decodeLossy (lastPart (trimmed started)) := by
  have found : fileName? ⟨started⟩ = nameOfPart? (lastPart (trimmed started)) :=
    fileName?_eq started
  rw [nameOfPart?] at found
  split
  · rename_i nameless
    rw [if_pos nameless] at found
    exact programName_of_none found others
  · rename_i named
    rw [if_neg named] at found
    exact programName_of_some found others

/-- Bytes without a slash are read as text without one. -/
theorem slash_not_mem_decodeLossy {bytes : Bytes} (single : slash ∉ bytes) :
    '/' ∉ Utf8.decodeLossy bytes :=
  Utf8.not_mem_decodeLossy (by decide) (by decide) rfl single

/-- The program always has a name, and no slash stands in it. -/
theorem programName_ne_nil_and_slash_not_mem (started : Bytes) (others : List Bytes) :
    programName (started :: others) ≠ [] ∧ '/' ∉ programName (started :: others) := by
  rw [programName_eq]
  split
  · decide
  · rename_i named
    have nonempty : lastPart (trimmed started) ≠ [] := fun nothing => named (.inl nothing)
    have single : slash ∉ lastPart (trimmed started) := (exists_lastPart (trimmed started)).1
    exact ⟨Utf8.decodeLossy_ne_nil nonempty, slash_not_mem_decodeLossy single⟩

/-- A name after a slash is the name of the program. -/
theorem programName_append_slash {name : Bytes} (single : slash ∉ name)
    (named : ¬ IsNameless name) (directory : Bytes) (others : List Bytes) :
    programName ((directory ++ slash :: name) :: others) = Utf8.decodeLossy name := by
  have nonempty : name ≠ [] := fun nothing => named (.inl nothing)
  have other : name ≠ dot := fun current => named (.inr (.inl current))
  have found : fileName? ⟨directory ++ slash :: name⟩ = some name := by
    rw [fileName?_append_slash single nonempty other, nameOfPart?, if_neg named]
  exact programName_of_some found others

/-- The name of the program is what stands after the last slash of the path under which it was
started, once slashes and lone dots are removed from its end; without such a name the program is
called `decode`. For any bytes at all the name is not empty and holds no slash. -/
theorem programName_by_bytes (started : Bytes) (others : List Bytes) :
    let program := programName (started :: others)
    let part := lastPart (trimmed started)
    program = (if part = [] ∨ part = dot ∨ part = dotDot then "decode".toList
      else Utf8.decodeLossy part) ∧
      program ≠ [] ∧ '/' ∉ program ∧
      ∀ directory name : Bytes, slash ∉ name → name ≠ [] → name ≠ dot → name ≠ dotDot →
        programName ((directory ++ slash :: name) :: others) = Utf8.decodeLossy name := by
  intro program part
  obtain ⟨nonempty, single⟩ := programName_ne_nil_and_slash_not_mem started others
  refine ⟨programName_eq started others, nonempty, single, ?_⟩
  intro directory name unslashed something other below
  have named : ¬ IsNameless name := by simp [IsNameless, something, other, below]
  exact programName_append_slash unslashed named directory others

/-- A name that is cut off inside a character and followed by slashes and dots, two dots at the
end, and three dots after a slash. -/
theorem programName_by_bytes_dotted :
    let started : Bytes := Utf8.encode "../bin/d".toList ++ 0xC3 :: Utf8.encode "/.//./".toList
    let above : Bytes := Utf8.encode "/bin/..//.".toList
    let dots : Bytes := [0x2E, 0x2E, 0x2E]
    lastPart (trimmed started) = [0x64, 0xC3] ∧
      programName [started] = "d\uFFFD".toList ∧ '/' ∉ programName [started] ∧
      lastPart (trimmed above) = dotDot ∧ programName [above] = "decode".toList ∧
      slash ∉ dots ∧ programName [Utf8.encode "/.".toList ++ slash :: dots] = "...".toList := by
  intro started above dots
  have part : lastPart (trimmed started) = [0x64, 0xC3] := by decide +kernel
  have parent : lastPart (trimmed above) = dotDot := by decide +kernel
  obtain ⟨shown, -, single, named⟩ := programName_by_bytes started []
  obtain ⟨fallback, -⟩ := programName_by_bytes above []
  have unslashed : slash ∉ dots := by decide
  have third := named (Utf8.encode "/.".toList) dots unslashed (by decide) (by decide) (by decide)
  rw [part] at shown
  rw [parent] at fallback
  exact ⟨part, shown.trans (by decide), single, parent, fallback.trans (by decide), unslashed,
    third.trans (by decide)⟩

end Backtrace.Usage
