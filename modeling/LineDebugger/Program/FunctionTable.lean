import LineDebugger.Program.Line
import Std.Data.ExtTreeMap

/-!
# Function tables

The table of a program tells for each function which line defines it. It is made once, from all
lines: any line whose first word is `def` and that has a second word counts, indented or not. Of
several definitions of one name the last one stands.

The table is an extensional map, so two programs with the same definitions have equal tables.

## Main definitions

* `FunctionTable` — names and the lines that define them
* `FunctionTable.ofLines` — the table of a list of lines
-/

namespace LineDebugger

/-- The line that defines each function. -/
abbrev FunctionTable := Std.ExtTreeMap String Nat

namespace FunctionTable

/-- The name that a line defines, if it is a header. -/
def definedName? (line : String) : Option String :=
  match Text.words line with
  | keyword :: name :: _ => if keyword = Line.definitionKeyword then some name else none
  | _ => none

/-- Enters line `index` if it is a header. -/
def enter (table : FunctionTable) (line : String) (index : Nat) : FunctionTable :=
  match definedName? line with
  | none => table
  | some name => table.insert name index

/-- The table of a list of lines. -/
def ofLines (lines : List String) : FunctionTable :=
  lines.zipIdx.foldl (fun table (line, index) => table.enter line index) ∅

/-- A line is a header of `name` exactly when reading it says so. -/
theorem definedName?_eq_some_iff {line name : String} {index : Nat} :
    definedName? line = some name ↔ Line.parse line index = .ok (.definition name) := by
  rw [definedName?, Line.parse, Line.ofWords.eq_def]
  split
  · next keyword name' rest h =>
    rw [h]
    dsimp only
    by_cases hk : keyword = Line.definitionKeyword
    · simp [hk]
    · by_cases hc : keyword = Line.callKeyword
      · simp [hc, Line.callKeyword, Line.definitionKeyword]
      · simp only [hk, hc, if_false]
        cases Operation.ofKeyword? keyword with
        | none => simp
        | some op =>
          cases rest with
          | nil => simp
          | cons word _ => cases h : Numeral.integer? word <;> simp [h]
  · next h =>
    cases hw : Text.words line with
    | nil => simp
    | cons w ws =>
      cases ws with
      | nil => simp
      | cons v vs => exact absurd hw (h w v vs)

/-- Entering a line leaves the definitions of all names but its own as they were. -/
theorem getElem?_enter (table : FunctionTable) (line name : String) (index : Nat) :
    (table.enter line index)[name]? =
      if definedName? line = some name then some index else table[name]? := by
  rw [enter]
  split
  · next h => simp [h]
  · next other h =>
    rw [Std.ExtTreeMap.getElem?_insert, h]
    by_cases he : other = name <;> simp [he]

theorem lt_of_foldl_enter (lines : List String) (start : Nat) (table : FunctionTable)
    (htable : ∀ (name : String) (index : Nat), table[name]? = some index → index < start)
    {name : String} {index : Nat}
    (h : ((lines.zipIdx start).foldl (fun t (line, i) => t.enter line i) table)[name]? =
      some index) :
    index < start + lines.length := by
  induction lines generalizing start table with
  | nil => exact htable _ _ h
  | cons line lines ih =>
    have := ih (start + 1) (table.enter line start) ?_ h
    · simp only [List.length_cons]; omega
    · intro other i hi
      rw [getElem?_enter] at hi
      split at hi
      · cases hi; exact Nat.lt_succ_self _
      · exact Nat.lt_succ_of_lt (htable _ _ hi)

/-- A table leads only to lines that exist. -/
theorem lt_length_of_getElem?_ofLines {lines : List String} {name : String} {index : Nat}
    (h : (ofLines lines)[name]? = some index) : index < lines.length := by
  simpa using lt_of_foldl_enter lines 0 ∅ (by simp) h

end FunctionTable

end LineDebugger
