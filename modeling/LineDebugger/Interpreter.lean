import LineDebugger.Memory
import LineDebugger.Outcome
import LineDebugger.Text.Numeral

/-!
# The interpreter

The interpreter runs one statement at a time on its memory. Every statement but `set` needs its
variable; when that is missing, the interpreter says so, remembers that it failed and reports no
error. The memory of having failed stays until the interpreter starts anew, and it stops nobody
here: whoever drives the interpreter looks at it.

The variable is looked for first. Only then does it matter whether the statement has an operand
that its operation can use.

## Main definitions

* `Interpreter` — memory, and whether all went well so far
* `Interpreter.execute` — running one statement
-/

namespace LineDebugger

/-- Memory, and whether every statement so far found its variable. -/
structure Interpreter where
  memory : Memory
  succeeded : Bool

namespace Interpreter

/-- The interpreter before it has run anything. -/
def initial : Interpreter := ⟨.empty, true⟩

/-- Gives the statement's variable a value and marks the line that did so. -/
def store (i : Interpreter) (s : Statement) (value : Int64) : Outcome Interpreter ProgramError :=
  match i.memory.assign s.name value s.line with
  | .error error => .fail i error
  | .ok memory => .quiet { i with memory := memory.stamp s.name s.line }

/-- The statement cannot be run as it stands. -/
def reject (i : Interpreter) (s : Statement) (fault : Malformation) :
    Outcome Interpreter ProgramError :=
  .fail i (.malformed s.line s.text fault)

/-- The effect of a statement. -/
def perform (i : Interpreter) (s : Statement) : Outcome Interpreter ProgramError :=
  match s.operation, i.memory.find? s.name with
  | .set, _ =>
    match s.operand with
    | none => i.reject s .missingValue
    | some value => i.store s value
  | _, none => .done { i with succeeded := false } [.variableMissing]
  | .sub, some current =>
    match s.operand with
    | none => i.reject s .missingValue
    | some amount =>
      match Numeral.ofInt? (current.value.toInt - amount.toInt) with
      | none => i.reject s .valueOutOfRange
      | some difference => i.store s difference
  | .print, some current =>
    match s.operand with
    | none => .done i [.printed current.value]
    | some _ => i.reject s .unexpectedValue
  | .rem, some _ =>
    match s.operand with
    | none => .quiet { i with memory := i.memory.remove s.name }
    | some _ => i.reject s .unexpectedValue

/-- Runs a statement. -/
def execute (i : Interpreter) (s : Statement) : Outcome Interpreter ProgramError :=
  (i.perform s).after [.executing s]

end Interpreter

end LineDebugger
