import LineDebugger.Outcome
import Std.Data.ExtTreeSet

/-!
# Breakpoints

A breakpoint is a line at which a run stops. Setting one that is already set and removing one that
is not there change nothing, and are told to the log all the same; forgetting all of them at once
is not.

## Main definitions

* `Breakpoints` — a set of line numbers
* `Breakpoints.toList` — the lines in ascending order
-/

namespace LineDebugger

/-- The lines at which a run stops. -/
structure Breakpoints where
  lines : Std.ExtTreeSet Nat

namespace Breakpoints

/-- No breakpoints. -/
def empty : Breakpoints := ⟨∅⟩

/-- Sets a breakpoint. -/
def insert (b : Breakpoints) (line : Nat) : Breakpoints := ⟨b.lines.insert line⟩

/-- Removes a breakpoint. -/
def erase (b : Breakpoints) (line : Nat) : Breakpoints := ⟨b.lines.erase line⟩

/-- Is there a breakpoint on this line? -/
def contains (b : Breakpoints) (line : Nat) : Bool := b.lines.contains line

/-- Is there no breakpoint at all? -/
def isEmpty (b : Breakpoints) : Bool := b.lines.isEmpty

/-- The lines in ascending order. -/
def toList (b : Breakpoints) : List Nat := b.lines.toList

/-- Sets of the same lines are the same. -/
@[ext] theorem ext {b c : Breakpoints} (h : ∀ line, b.contains line = c.contains line) : b = c :=
  congrArg mk (Std.ExtTreeSet.ext_contains h)

/-- The list holds the lines that there is a breakpoint on. -/
theorem contains_toList (b : Breakpoints) (line : Nat) : b.toList.contains line = b.contains line :=
  Std.ExtTreeSet.contains_toList

@[simp] theorem contains_empty (line : Nat) : empty.contains line = false := by
  simp [contains, empty]

@[simp] theorem contains_insert (b : Breakpoints) (line other : Nat) :
    (b.insert line).contains other = (line == other || b.contains other) := by
  rw [Bool.eq_iff_iff]
  simp [contains, insert, Std.ExtTreeSet.contains_insert]

@[simp] theorem contains_erase (b : Breakpoints) (line other : Nat) :
    (b.erase line).contains other = (!(line == other) && b.contains other) := by
  rw [Bool.eq_iff_iff]
  simp [contains, erase, Std.ExtTreeSet.contains_erase]

end Breakpoints

end LineDebugger
