/-!
# Program errors

A program fails for one of four reasons, and every one of them knows the line it happened on. A
malformed line also knows its text and what exactly is wrong with it; the first three of those
reasons and `notAnInteger` come from reading the line, the others from running the statement on
it.

Failing is not the same as naming a variable that is not in memory: that stops a program too, but
it is an ordinary outcome with a message of its own and no error.

## Main definitions

* `Malformation` — what is wrong with a line
* `ProgramError` — why a program failed
* `ProgramError.message` — the error in words
* `ProgramError.line` — the line at fault
-/

namespace LineDebugger

/-- What is wrong with a malformed line. -/
inductive Malformation
  /-- The line has no words. -/
  | emptyStatement
  /-- The line has one word only. -/
  | missingName
  /-- The first word is no keyword. -/
  | unknownOperation (keyword : String)
  /-- The third word is no integer of 64 bits. -/
  | notAnInteger (word : String)
  /-- The difference does not fit 64 bits. -/
  | valueOutOfRange
  /-- The operation needs an operand. -/
  | missingValue
  /-- The operation takes no operand. -/
  | unexpectedValue
deriving DecidableEq

/-- The fault in words. -/
def Malformation.message : Malformation → String
  | emptyStatement => "empty statement"
  | missingName => "missing name"
  | unknownOperation keyword => s!"unknown operation '{keyword}'"
  | notAnInteger word => s!"'{word}' is not an integer"
  | valueOutOfRange => "value out of range"
  | missingValue => "missing value"
  | unexpectedValue => "unexpected value"

/-- Why a program failed. -/
inductive ProgramError
  /-- A variable was to hold a number that is not positive. -/
  | invalidValue (name : String) (value : Int64) (line : Nat)
  /-- No line defines the function that is called. -/
  | unknownFunction (name : String) (line : Nat)
  /-- A line, or the statement on it, has the wrong form. -/
  | malformed (line : Nat) (text : String) (fault : Malformation)
  /-- A call would nest deeper than allowed. -/
  | depthExceeded (limit : Nat) (line : Nat)
deriving DecidableEq

namespace ProgramError

/-- The line at fault. -/
def line : ProgramError → Nat
  | invalidValue _ _ line => line
  | unknownFunction _ line => line
  | malformed line _ _ => line
  | depthExceeded _ line => line

/-- The error in words. -/
def message : ProgramError → String
  | invalidValue name value line =>
    s!"line {line}: variable '{name}' can only hold natural numbers, got {value.toInt}"
  | unknownFunction name line => s!"line {line}: call to unknown function '{name}'"
  | malformed line text fault =>
    s!"line {line}: malformed statement '{text}': {fault.message}"
  | depthExceeded limit line => s!"line {line}: call depth limit of {limit} exceeded"

end ProgramError

end LineDebugger
