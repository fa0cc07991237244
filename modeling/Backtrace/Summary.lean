import Backtrace.Text.Blank

/-!
# Summaries of a run

The counts of a finished run. They add up componentwise, so that the counts of a run are the sum
of what its parts contribute.
-/

namespace Backtrace

/-- What a run read and what became of its frames. -/
structure Summary where
  /-- Lines read. -/
  lines : Nat
  /-- Frames found among them. -/
  addresses : Nat
  /-- Frames with a known place in the source. -/
  resolved : Nat
  /-- Frames without one. -/
  unresolved : Nat
deriving DecidableEq

namespace Summary

instance : Add Summary where
  add left right :=
    ⟨left.lines + right.lines, left.addresses + right.addresses, left.resolved + right.resolved,
      left.unresolved + right.unresolved⟩

/-- Sums are taken count by count. -/
theorem add_def (left right : Summary) :
    left + right = ⟨left.lines + right.lines, left.addresses + right.addresses,
      left.resolved + right.resolved, left.unresolved + right.unresolved⟩ := rfl

/-- The counts of a number of lines without frames. -/
def ofLines (lines : Nat) : Summary := ⟨lines, 0, 0, 0⟩

/-- The counts of one resolved frame, apart from its line. -/
def resolvedFrame : Summary := ⟨0, 1, 1, 0⟩

/-- The counts of one unresolved frame, apart from its line. -/
def unresolvedFrame : Summary := ⟨0, 1, 0, 1⟩

/-- The order in which counts are added does not matter. -/
theorem add_assoc (first second third : Summary) :
    first + second + third = first + (second + third) := by
  simp [add_def, Nat.add_assoc]

/-- Nor does it matter which of two counts comes first. -/
theorem add_comm (left right : Summary) : left + right = right + left := by
  simp [add_def, Nat.add_comm]

end Summary
end Backtrace
