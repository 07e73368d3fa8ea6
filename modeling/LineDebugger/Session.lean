import LineDebugger.Breakpoints
import LineDebugger.Command
import LineDebugger.Engine.Advance

/-!
# Sessions

A session is an engine, a set of breakpoints and the knowledge whether the next line is a program.
It takes one line of text at a time. After `set code` the next line that is not empty is loaded as
a program, whatever it says; any other line is a command.

After a command the session goes back to the start of the program if the program failed, is over,
or missed a variable. That holds after every command, also one that was not understood. The
program and the breakpoints stay.

A run looks at the breakpoints only after it has made a step, so it always gets away from the one
it stands on. Stepping over a call ends when the cursor is on the line after that call, in whatever
call that happens, and does not look at breakpoints at all.

## Main definitions

* `Session` — engine, breakpoints, and whether a program is awaited
* `Session.perform` — carrying out a command
* `Session.execute` — one line of text
-/

namespace LineDebugger

/-- A debugging session. -/
structure Session where
  engine : Engine
  breakpoints : Breakpoints
  /-- Is the next line a program? -/
  awaitingSource : Bool

namespace Session

/-- A session without a program. -/
def initial (depthLimit : Nat) : Session := ⟨.initial depthLimit, .empty, false⟩

/-- The session after its engine came to an outcome. -/
def withEngine (s : Session) (o : Outcome Engine ProgramError) : Outcome Session ProgramError :=
  o.map fun engine => { s with engine }

/-- Loads a program. -/
def load (s : Session) (source : String) : Outcome Session ProgramError :=
  s.withEngine (s.engine.load source)

/-- Makes one step. -/
def step (s : Session) : Outcome Session ProgramError :=
  match s.engine.program? with
  | none => .done s [.nothingToExecute]
  | some _ => s.withEngine s.engine.step

/-- Steps at least once, and then until the program stops or the cursor is on a breakpoint. -/
def run (s : Session) : Outcome Session ProgramError :=
  match s.engine.program? with
  | none => .done s [.nothingToRun]
  | some _ =>
    s.withEngine <| (s.engine.step.andThen fun e =>
      e.advance (fun e => s.breakpoints.contains e.cursor) #[]).andThen fun e =>
        if e.succeeded && !e.atEnd then .done e [.stopped e.cursor] else .quiet e

/-- Makes one step, and if that entered a function, goes on to the line after the call. -/
def stepOver (s : Session) : Outcome Session ProgramError :=
  s.step.andThen fun t =>
    match t.engine.stack with
    | frame :: _ =>
      if s.engine.stack.length < t.engine.stack.length then
        (t.withEngine (t.engine.advance (fun e => e.cursor == frame.returnLine) #[])).after
          [.steppingOver frame.returnLine]
      else .quiet t
    | [] => .quiet t

/-- Carries out a command. -/
def perform (s : Session) : Command → Outcome Session ProgramError
  | .setCode => .quiet { s with awaitingSource := true }
  | .run => s.run
  | .step => s.step
  | .stepOver => s.stepOver
  | .printMemory =>
    .done s (s.engine.interpreter.memory.toList.map fun (name, entry) => .memoryRow name entry)
  | .printTrace => .done s (s.engine.stack.map .traceRow)
  | .printBreakpoints => .done s (s.breakpoints.toList.map .breakpointRow)
  | .addBreakpoint line =>
    .done { s with breakpoints := s.breakpoints.insert line } [.breakpointSet line]
  | .removeBreakpoint line =>
    .done { s with breakpoints := s.breakpoints.erase line } [.breakpointRemoved line]
  | .clearBreakpoints => .quiet { s with breakpoints := .empty }

/-- Reads a line as a command and carries it out. -/
def dispatch (s : Session) (line : String) : Outcome Session CommandError :=
  match Command.parse line with
  | .error error => .fail s error
  | .ok none => .done s [.commandIgnored line]
  | .ok (some command) => (s.perform command).mapError .program

/-- Does the session start over after this outcome of a command? -/
def endsRun (o : Outcome Session CommandError) : Bool :=
  o.error?.any CommandError.isProgram || o.state.engine.atEnd || !o.state.engine.succeeded

/-- The session started over, if the outcome of a command asks for it. -/
def settle (o : Outcome Session CommandError) : Outcome Session CommandError :=
  if endsRun o then
    { o with
      state := { o.state with engine := o.state.engine.restarted }
      events := o.events ++ [.sessionReset] }
  else o

/-- Takes one line: nothing if it is empty, a program if one is awaited, else a command. -/
def execute (s : Session) (line : String) : Outcome Session CommandError :=
  if line = "" then .quiet s
  else if s.awaitingSource then
    ({ s with awaitingSource := false }.load line).mapError .program
  else settle (s.dispatch line)

end Session

end LineDebugger
