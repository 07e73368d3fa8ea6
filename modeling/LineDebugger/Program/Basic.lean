import LineDebugger.Program.FunctionTable

/-!
# Programs

A program is its non-empty lines in order, and a line is known by its index, counted from zero
after the empty lines are gone. A line indented by four spaces or more is a body line: it belongs
to the function whose header stands above it. Tabs and fewer spaces are no indentation.

A program carries its function table with a proof that it is the table of its lines, so every
program that exists has the right one.

## Main definitions

* `Program` — lines and their function table
* `Program.ofSource` — the program that a text describes
* `Program.isBody` — is there a body line at this index?
* `Program.blockEnd` — where a stretch of body lines ends
-/

namespace LineDebugger

/-- The lines of a program text: what stands between newlines, without the empty lines. -/
def sourceLines (source : String) : List String := Text.runs (· == '\n') source

/-- Does the line start with four spaces? -/
def isBodyLine (line : String) : Bool := (List.replicate 4 ' ').isPrefixOf line.toList

/-- A program. -/
structure Program where
  lines : Array String
  functions : FunctionTable
  functions_eq : functions = FunctionTable.ofLines lines.toList

namespace Program

/-- The program with the given lines. -/
def ofLines (lines : List String) : Program := ⟨lines.toArray, .ofLines lines, rfl⟩

/-- The program that a text describes. -/
def ofSource (source : String) : Program := ofLines (sourceLines source)

/-- The number of lines. -/
def size (p : Program) : Nat := p.lines.size

/-- The line that defines a function. -/
def functionLine? (p : Program) (name : String) : Option Nat := p.functions[name]?

/-- Is there a line at this index, and is it a body line? -/
def isBody (p : Program) (index : Nat) : Bool := p.lines[index]?.any isBodyLine

/-- The first index from `start` on at which no body line stands. -/
def blockEnd (p : Program) (start : Nat) : Nat :=
  start + ((p.lines.toList.drop start).takeWhile isBodyLine).length

/-- A function's header is a line of the program. -/
theorem lt_size_of_functionLine? {p : Program} {name : String} {header : Nat}
    (h : p.functionLine? name = some header) : header < p.size := by
  rw [functionLine?, p.functions_eq] at h
  simpa [size] using FunctionTable.lt_length_of_getElem?_ofLines h

/-- A body line is a line of the program. -/
theorem lt_size_of_isBody {p : Program} {index : Nat} (h : p.isBody index) : index < p.size := by
  rw [isBody] at h
  cases hl : p.lines[index]? with
  | none => simp [hl] at h
  | some line => exact (Array.getElem?_eq_some_iff.1 hl).1

theorem le_blockEnd (p : Program) (start : Nat) : start ≤ p.blockEnd start :=
  Nat.le_add_right _ _

/-- Programs with the same lines are the same. -/
@[ext] theorem ext {p q : Program} (h : p.lines = q.lines) : p = q := by
  obtain ⟨_, _, hp⟩ := p
  obtain ⟨_, _, hq⟩ := q
  subst h hp hq
  rfl

end Program

end LineDebugger
