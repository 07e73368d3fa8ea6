import LineDebugger.Error
import LineDebugger.Log.Entry
import LineDebugger.Memory
import LineDebugger.Program.Frame
import LineDebugger.Program.Statement
import LineDebugger.Text.Quoted

/-!
# Events

Everything that the debugger does for others to see is an event: a line of output, an entry of the
log, or both kinds of news in their order. Operations return the events they caused, so no part of
the debugger writes anything, and what an event looks like is decided here alone.

An event is either output or news for the log, never both.

## Main definitions

* `Event` — what happened
* `Event.output?` — the line of output that the event stands for
* `Event.entry?` — the log entry that the event stands for
* `outputs`, `entries` — all lines, and all entries, of a list of events
-/

namespace LineDebugger

/-- What happened. -/
inductive Event
  /-- A program with so many lines and functions took the place of the old one. -/
  | sourceLoaded (lines functions : Nat)
  /-- The session went back to the first line. -/
  | sessionReset
  /-- A call was over. -/
  | returned (frame : Frame)
  /-- A function was entered; its header is the last line given. -/
  | called (frame : Frame) (header : Nat)
  /-- A statement was about to be executed. -/
  | executing (statement : Statement)
  /-- A variable's value was printed. -/
  | printed (value : Int64)
  /-- A statement needed a variable that is not in memory. -/
  | variableMissing
  /-- A variable was listed. -/
  | memoryRow (name : String) (entry : Variable)
  /-- A frame was listed. -/
  | traceRow (frame : Frame)
  /-- A breakpoint was listed. -/
  | breakpointRow (line : Nat)
  /-- A command was not understood. -/
  | commandIgnored (command : String)
  /-- A step was asked for before any program was loaded. -/
  | nothingToExecute
  /-- A run was asked for before any program was loaded. -/
  | nothingToRun
  /-- A run came to a breakpoint. -/
  | stopped (line : Nat)
  /-- A function was entered that is to be stepped over. -/
  | steppingOver (returnLine : Nat)
  /-- A breakpoint was set. -/
  | breakpointSet (line : Nat)
  /-- A breakpoint was removed, or was not there. -/
  | breakpointRemoved (line : Nat)
  /-- A request arrived. -/
  | requestReceived (seq : UInt64) (command : String)
  /-- A request failed. -/
  | requestFailed (seq : UInt64) (error : CommandError)
  /-- The program was started. -/
  | started (arguments : List String)
  /-- The server took over. -/
  | serving
  /-- A file could not be loaded. -/
  | fileUnreadable (path : String) (error : ReadError)
  /-- A command on the console failed. -/
  | commandFailed (error : CommandError)
deriving DecidableEq

/-- What is printed for a statement about a variable that is not in memory. -/
def missingVariableMessage : String := "variable absent from memory"

namespace Event

/-- The line of output that an event stands for. -/
def output? : Event → Option String
  | printed value => some (toString value.toInt)
  | variableMissing => some missingVariableMessage
  | memoryRow name entry => some s!"{name} {entry.value.toInt} {entry.line}"
  | traceRow frame => some s!"{frame.callLine} {frame.function}"
  | breakpointRow line => some (toString line)
  | _ => none

/-- The log entry that an event stands for. -/
def entry? : Event → Option Log.Entry
  | sourceLoaded lines functions =>
    some ⟨.info, .engine, s!"📝 Loaded {lines} lines, {functions} functions"⟩
  | sessionReset => some ⟨.debug, .engine, "session reset"⟩
  | returned frame =>
    some ⟨.debug, .engine, s!"↩️  return from {frame.function} to line {frame.returnLine}"⟩
  | called frame header =>
    some ⟨.debug, .engine,
      s!"📞 call {frame.function} from line {frame.callLine} (jumping to line {header})"⟩
  | executing statement =>
    some ⟨.debug, .interpreter,
      "executing \x60" ++ statement.text ++ "\x60 from line " ++ toString statement.line⟩
  | commandIgnored command =>
    some ⟨.debug, .session, s!"ignoring console command {Text.quoted command}"⟩
  | nothingToExecute => some ⟨.warn, .session, "no source loaded, nothing to execute"⟩
  | nothingToRun => some ⟨.warn, .session, "no source loaded, nothing to run"⟩
  | stopped line => some ⟨.info, .session, s!"🛑 Stopped at breakpoint on line {line}"⟩
  | steppingOver returnLine =>
    some ⟨.debug, .session, s!"⏭️  Step over until line {returnLine}"⟩
  | breakpointSet line => some ⟨.info, .breakpoints, s!"Breakpoint set at line {line}"⟩
  | breakpointRemoved line =>
    some ⟨.info, .breakpoints, s!"Breakpoint removed from line {line}"⟩
  | requestReceived seq command =>
    some ⟨.debug, .server, s!"📨 Received #{seq}: {Text.quoted command}"⟩
  | requestFailed seq error =>
    some ⟨.error, .server, s!"❌ Command #{seq} failed: {error.message}"⟩
  | started arguments =>
    some ⟨.info, .commandLine, s!"Args: {Text.quotedList arguments}"⟩
  | serving => some ⟨.info, .console, "JSON-lines mode"⟩
  | fileUnreadable path error =>
    some ⟨.error, .console, s!"❌ Failed to read {path}: {error.message}"⟩
  | commandFailed error => some ⟨.error, .console, s!"❌ {error.message}"⟩
  | printed _ | variableMissing | memoryRow _ _ | traceRow _ | breakpointRow _ => none

end Event

/-- The lines of output among some events. -/
def outputs (events : List Event) : List String := events.filterMap Event.output?

/-- The log entries among some events. -/
def entries (events : List Event) : List Log.Entry := events.filterMap Event.entry?

@[simp] theorem outputs_nil : outputs [] = [] := rfl

@[simp] theorem outputs_append (before after : List Event) :
    outputs (before ++ after) = outputs before ++ outputs after :=
  List.filterMap_append

end LineDebugger
