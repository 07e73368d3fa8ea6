import LineDebugger.Program.Error
import Std.Data.ExtTreeMap

/-!
# Memory

Memory holds the variables of a running program. A name leads to its variable by way of an index,
and a list beside the index remembers in which order the names came. Giving a variable a new value
keeps its place; a variable that is removed and set again comes last.

Storing a value and stamping the line that changed it are two operations. `assign` writes the line
only when it makes a new variable; whoever changes a variable stamps it afterwards.

## Main definitions

* `Variable`, `Memory` — a stored value with the line of its last change; all of them
* `Memory.assign`, `Memory.stamp`, `Memory.remove` — the three changes
* `Memory.find?`, `Memory.toList` — one variable; all variables in order
-/

namespace LineDebugger

/-- A stored variable. -/
structure Variable where
  value : Int64
  /-- The line that changed the variable last. -/
  line : Nat
deriving DecidableEq

/-- The variables of a running program. -/
structure Memory where
  /-- The names, oldest first. -/
  names : List String
  /-- The variable of each name. -/
  index : Std.ExtTreeMap String Variable

namespace Memory

/-- Memory without variables. -/
def empty : Memory := ⟨[], ∅⟩

/-- The variable of a name. -/
def find? (m : Memory) (name : String) : Option Variable := m.index[name]?

/-- Is there a variable of this name? -/
def contains (m : Memory) (name : String) : Bool := (m.find? name).isSome

/-- The number of variables. -/
def size (m : Memory) : Nat := m.names.length

/-- Is there no variable at all? -/
def isEmpty (m : Memory) : Bool := m.names.isEmpty

/-- The variables with their names, oldest first. -/
def toList (m : Memory) : List (String × Variable) :=
  m.names.filterMap fun name => (m.find? name).map (name, ·)

/-- Gives a name a positive value. Only a new variable gets the line; an old one keeps its own. -/
def assign (m : Memory) (name : String) (value : Int64) (line : Nat) :
    Except ProgramError Memory :=
  if value ≤ 0 then .error (.invalidValue name value line)
  else
    match m.find? name with
    | some old => .ok { m with index := m.index.insert name { old with value } }
    | none => .ok { names := m.names ++ [name], index := m.index.insert name ⟨value, line⟩ }

/-- Marks a variable as changed on a line. A name without a variable stays without one. -/
def stamp (m : Memory) (name : String) (line : Nat) : Memory :=
  match m.find? name with
  | some old => { m with index := m.index.insert name { old with line } }
  | none => m

/-- Forgets a variable. -/
def remove (m : Memory) (name : String) : Memory :=
  if m.contains name then
    { names := m.names.filter (· != name), index := m.index.erase name }
  else m

@[simp] theorem find?_empty (name : String) : empty.find? name = none := by
  simp [find?, empty]

@[simp] theorem toList_empty : empty.toList = [] := rfl

/-- Removing a variable removes that one alone. -/
theorem find?_remove (m : Memory) (name other : String) :
    (m.remove name).find? other = if name = other then none else m.find? other := by
  rw [remove, contains]
  split
  · simp [find?, Std.ExtTreeMap.getElem?_erase]
  · next h =>
    split
    · next he => subst he; simpa using h
    · rfl

/-- Stamping a variable changes its line and nothing else. -/
theorem find?_stamp (m : Memory) (name other : String) (line : Nat) :
    (m.stamp name line).find? other =
      if name = other then (m.find? other).map ({ · with line }) else m.find? other := by
  rw [stamp]
  split
  · next old h =>
    simp only [find?] at h ⊢
    rw [Std.ExtTreeMap.getElem?_insert]
    by_cases he : name = other
    · subst he; simp [h]
    · simp [he]
  · next h =>
    split
    · next he => subst he; simp [h]
    · rfl

end Memory

end LineDebugger
