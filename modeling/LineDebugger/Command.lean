import LineDebugger.Error
import LineDebugger.Text.Numeral
import LineDebugger.Text.Words

/-!
# Commands

A command without an argument is one fixed text and has to match it character for character; a
single blank too many makes it something else. The two commands about one breakpoint are read by
their words, and once the first two words say that such a command is meant, everything but exactly
one line number after them is an error. Any other text is no command, which is not an error.

## Main definitions

* `Command` — what a user can ask of the debugger
* `Command.parse` — reading a command
-/

namespace LineDebugger

/-- What a user can ask of the debugger. -/
inductive Command
  /-- Take the next line as a program. -/
  | setCode
  /-- Go on to a breakpoint or to the end. -/
  | run
  /-- Make one step. -/
  | step
  /-- Make one step, with the whole call that it may begin. -/
  | stepOver
  /-- List the variables. -/
  | printMemory
  /-- List the calls under way. -/
  | printTrace
  /-- List the breakpoints. -/
  | printBreakpoints
  /-- Set a breakpoint. -/
  | addBreakpoint (line : Nat)
  /-- Remove a breakpoint. -/
  | removeBreakpoint (line : Nat)
  /-- Remove all breakpoints. -/
  | clearBreakpoints
deriving DecidableEq

namespace Command

/-- The commands without an argument, each with the text that asks for it. -/
def literals : List (String × Command) :=
  [("set code", setCode), ("run", run), ("step", step), ("step over", stepOver),
    ("print mem", printMemory), ("print trace", printTrace), ("print breaks", printBreakpoints),
    ("clear breaks", clearBreakpoints)]

/-- The line number that the words after a breakpoint command name, if they name exactly one. -/
def lineNumber? : List String → Option Nat
  | [word] => Numeral.natural? word
  | _ => none

/-- A breakpoint command with the words that follow it. -/
def withLine (text : String) (command : Nat → Command) (words : List String) :
    Except CommandError (Option Command) :=
  match lineNumber? words with
  | none => .error (.invalidBreakpoint text)
  | some line => .ok (some (command line))

/-- The command that a text stands for; no command if it stands for none. -/
def parse (text : String) : Except CommandError (Option Command) :=
  match literals.lookup text with
  | some command => .ok (some command)
  | none =>
    match Text.words text with
    | "add" :: "break" :: words => withLine text addBreakpoint words
    | "remove" :: "break" :: words => withLine text removeBreakpoint words
    | _ => .ok none

end Command

end LineDebugger
