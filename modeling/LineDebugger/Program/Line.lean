import LineDebugger.Program.Error
import LineDebugger.Program.Statement
import LineDebugger.Text.Numeral
import LineDebugger.Text.Words

/-!
# Lines

A line is read by its words. `def` and `call` need a name and ignore all that follows it; any
other first word has to be an operation, which takes a variable and, if there is a third word, an
operand. Words after the third never matter.

A fault is reported with the whole line as it was written, blanks included.

## Main definitions

* `Line` — what a line asks for
* `Line.parse` — reading a line
-/

namespace LineDebugger

/-- What a line asks for. -/
inductive Line
  /-- The header of a function. -/
  | definition (name : String)
  /-- A call of a function. -/
  | call (name : String)
  /-- A statement. -/
  | statement (statement : Statement)
deriving DecidableEq

namespace Line

/-- The word that begins the header of a function. -/
def definitionKeyword : String := "def"

/-- The word that begins a call. -/
def callKeyword : String := "call"

/-- What the words of line `index` ask for, or what is wrong with them. -/
def ofWords (index : Nat) : List String → Except Malformation Line
  | [] => .error .emptyStatement
  | [_] => .error .missingName
  | keyword :: name :: more =>
    if keyword = definitionKeyword then .ok (.definition name)
    else if keyword = callKeyword then .ok (.call name)
    else
      match Operation.ofKeyword? keyword with
      | none => .error (.unknownOperation keyword)
      | some operation =>
        match more with
        | [] => .ok (.statement ⟨operation, name, none, index⟩)
        | word :: _ =>
          match Numeral.integer? word with
          | none => .error (.notAnInteger word)
          | some value => .ok (.statement ⟨operation, name, some value, index⟩)

/-- What the line `text` with the given index asks for. -/
def parse (text : String) (index : Nat) : Except ProgramError Line :=
  match ofWords index (Text.words text) with
  | .ok line => .ok line
  | .error fault => .error (.malformed index text fault)

end Line

end LineDebugger
