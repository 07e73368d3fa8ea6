import LineDebugger.Text.ControlSequence

/-!
# Log entries

An entry has a level, the part of the debugger that it comes from, and a message. Written out, the
level takes five columns, the origin is the full name of that part, and a message of several lines
is indented so that no line of it can be taken for an entry of its own. Orders to a terminal are
left out, and since an order that never becomes complete takes all that follows, it can take the
newline that ends the entry too.

## Main definitions

* `Log.Level` — how grave an entry is
* `Log.Origin` — the parts of the debugger
* `Log.Entry` — one entry
* `Log.Entry.brief` — the entry with its level
* `Log.Entry.line`, `Log.Entry.written` — the entry on a line; the entry as it is written out
-/

namespace LineDebugger.Log

/-- How grave an entry is, the gravest first. -/
inductive Level
  | error
  | warn
  | info
  | debug
deriving DecidableEq

/-- The name of a level. -/
def Level.name : Level → String
  | error => "ERROR"
  | warn => "WARN"
  | info => "INFO"
  | debug => "DEBUG"

/-- The rank of a level: the graver, the lower. -/
def Level.rank : Level → Nat
  | error => 1
  | warn => 2
  | info => 3
  | debug => 4

/-- The part of the debugger that an entry comes from. -/
inductive Origin
  /-- The command line. -/
  | commandLine
  /-- The interactive console. -/
  | console
  /-- The server for requests. -/
  | server
  /-- The debugging session. -/
  | session
  /-- The set of breakpoints. -/
  | breakpoints
  /-- The engine that steps through lines. -/
  | engine
  /-- The interpreter of statements. -/
  | interpreter
deriving DecidableEq

/-- The full name of a part. -/
def Origin.target : Origin → String
  | commandLine => "script_debugger"
  | console => "script_debugger::console"
  | server => "script_debugger::console::server"
  | session => "script_debugger::debugger::context"
  | breakpoints => "script_debugger::debugger::breakpoints"
  | engine => "script_debugger::executor::engine"
  | interpreter => "script_debugger::executor::runner"

/-- One entry of the log. -/
structure Entry where
  level : Level
  origin : Origin
  message : String
deriving DecidableEq

/-- The level and the message. -/
def Entry.brief (entry : Entry) : String := entry.level.name ++ " " ++ entry.message

/-- A message whose lines after the first are indented by four spaces. -/
def indented (message : String) : String :=
  String.ofList (message.toList.flatMap fun c => if c == '\n' then "\n    ".toList else [c])

/-- The entry on a line, without the newline that ends it. -/
def Entry.line (entry : Entry) : String :=
  let padding := String.ofList (List.replicate (5 - entry.level.name.length) ' ')
  "[" ++ entry.level.name ++ padding ++ " " ++ entry.origin.target ++ "] " ++
    indented entry.message

/-- The entry as it is written out. -/
def Entry.written (entry : Entry) : String := Text.withoutControls (entry.line ++ "\n")

end LineDebugger.Log
