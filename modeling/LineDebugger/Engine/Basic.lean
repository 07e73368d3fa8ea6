import LineDebugger.Interpreter
import LineDebugger.Program.Basic

/-!
# The engine

The engine walks through a program one line at a time. Its cursor is the index of the next line,
and its call stack holds the calls under way. A step does one of these things:

* on the header of the function that was called last, it goes to the next line;
* in that function but past its body lines, it returns from the call;
* otherwise it reads the line under the cursor and jumps over a definition with its body lines,
  enters the function that is called, or runs a statement.

A function has no end of its own: a call is over at the first line, or the end of the program,
that is no body line. A statement moves the cursor before it runs; a line that cannot be read and
a call that cannot be made leave the cursor where it was.

Only the session starts the engine anew, so the state after an error can be looked at.

## Main definitions

* `Engine` — program, call stack, cursor and interpreter
* `Engine.load`, `Engine.reset` — starting over, with another program and with the same one
* `Engine.step` — one step
-/

namespace LineDebugger

/-- A program in the course of its execution. -/
structure Engine where
  program? : Option Program
  /-- The calls under way, the innermost first. -/
  stack : List Frame
  /-- The index of the line to look at next. -/
  cursor : Nat
  interpreter : Interpreter
  /-- How many calls may be under way at once. -/
  depthLimit : Nat

namespace Engine

/-- An engine without a program. -/
def initial (depthLimit : Nat) : Engine := ⟨none, [], 0, .initial, depthLimit⟩

/-- Is the program over? Without a program there is nothing to be over. -/
def atEnd (e : Engine) : Bool :=
  e.program?.any fun p => decide (p.size ≤ e.cursor) && e.stack.isEmpty

/-- Is there nothing to step through? -/
def idle (e : Engine) : Bool := e.program?.isNone || e.atEnd

/-- Is there a body line under the cursor, whatever the call stack? -/
def onBodyLine (e : Engine) : Bool := e.program?.any (·.isBody e.cursor)

/-- Did every statement so far find its variable? -/
def succeeded (e : Engine) : Bool := e.interpreter.succeeded

/-- The line that defines a function. -/
def functionLine? (e : Engine) (name : String) : Option Nat :=
  e.program?.bind (·.functionLine? name)

/-- The engine on the first line, with no calls and no variables. -/
def restarted (e : Engine) : Engine :=
  { e with stack := [], cursor := 0, interpreter := .initial }

/-- Goes back to the first line and forgets all calls and variables. -/
def reset (e : Engine) : Outcome Engine ProgramError := .done e.restarted [.sessionReset]

/-- Takes a program in place of the old one and starts on its first line. -/
def load (e : Engine) (source : String) : Outcome Engine ProgramError :=
  let p := Program.ofSource source
  .done { e with program? := some p }.restarted
    [.sourceLoaded p.size p.functions.size, .sessionReset]

/-- Enters a function from the line under the cursor. -/
def enter (e : Engine) (p : Program) (name : String) : Outcome Engine ProgramError :=
  match p.functionLine? name with
  | none => .fail e (.unknownFunction name e.cursor)
  | some header =>
    if e.depthLimit ≤ e.stack.length then .fail e (.depthExceeded e.depthLimit e.cursor)
    else
      let frame : Frame := ⟨name, e.cursor⟩
      .done { e with stack := frame :: e.stack, cursor := header } [.called frame header]

/-- Runs a statement after moving the cursor past its line. -/
def runStatement (e : Engine) (s : Statement) : Outcome Engine ProgramError :=
  (e.interpreter.execute s).map fun i => { e with cursor := e.cursor + 1, interpreter := i }

/-- Does what the line under the cursor asks for. -/
def stepLine (e : Engine) (p : Program) : Outcome Engine ProgramError :=
  match Line.parse (p.lines[e.cursor]?.getD "") e.cursor with
  | .error error => .fail e error
  | .ok (.definition _) => .quiet { e with cursor := p.blockEnd (e.cursor + 1) }
  | .ok (.call name) => e.enter p name
  | .ok (.statement s) => e.runStatement s

/-- One step through a program that is not over. -/
def stepIn (e : Engine) (p : Program) : Outcome Engine ProgramError :=
  match e.stack with
  | [] => e.stepLine p
  | frame :: outer =>
    if p.functionLine? frame.function = some e.cursor then .quiet { e with cursor := e.cursor + 1 }
    else if p.isBody e.cursor then e.stepLine p
    else .done { e with stack := outer, cursor := frame.returnLine } [.returned frame]

/-- One step. Without a program, or when it is over, nothing happens. -/
def step (e : Engine) : Outcome Engine ProgramError :=
  match e.program? with
  | none => .quiet e
  | some p => if e.atEnd then .quiet e else e.stepIn p

end Engine

end LineDebugger
