/-!
# Statements

A statement names an operation and a variable and may carry an operand, a signed 64-bit integer.
Which operations need an operand and which refuse one is no part of being a statement: a line with
the wrong number of words reads as a statement all the same, and running it decides, after it has
looked for the variable.

## Main definitions

* `Operation` — the four operations, each with its keyword
* `Statement` — one operation on one variable, with the line it stands on
* `Statement.text` — the statement in its shortest written form
-/

namespace LineDebugger

/-- What a statement does to its variable. -/
inductive Operation
  /-- Give the variable a value. -/
  | set
  /-- Take an amount off the variable's value. -/
  | sub
  /-- Show the variable's value. -/
  | print
  /-- Forget the variable. -/
  | rem
deriving DecidableEq

namespace Operation

/-- The word that a program writes for the operation. -/
def keyword : Operation → String
  | set => "set"
  | sub => "sub"
  | print => "print"
  | rem => "rem"

/-- The operation that a word stands for, if any. -/
def ofKeyword? (word : String) : Option Operation :=
  [set, sub, print, rem].find? (·.keyword == word)

@[simp] theorem ofKeyword?_keyword (op : Operation) : ofKeyword? op.keyword = some op := by
  cases op <;> decide

theorem keyword_of_ofKeyword?_eq_some {word : String} {op : Operation}
    (h : ofKeyword? word = some op) : op.keyword = word := by
  simpa using List.find?_some h

end Operation

/-- One operation on one variable. -/
structure Statement where
  operation : Operation
  /-- The variable it is about. -/
  name : String
  /-- The third word of the line, if there is one. -/
  operand : Option Int64
  /-- The index of the line that the statement was read from. -/
  line : Nat
deriving DecidableEq

/-- The statement in its shortest written form. -/
def Statement.text (s : Statement) : String :=
  s.operation.keyword ++ " " ++ s.name ++
    match s.operand with
    | none => ""
    | some value => " " ++ toString value.toInt

end LineDebugger
