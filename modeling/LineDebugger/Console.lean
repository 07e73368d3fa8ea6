import LineDebugger.Session
import LineDebugger.Text.InputLine
import LineDebugger.Text.ShellWords

/-!
# The console

The console drives a session by lines that a person types. It keeps three kinds of lines for
itself: the two words for leaving, and `load` with the name of one file. It looks for these before
the session sees a line, so they keep their meaning even while the session awaits a program.
Everything else goes to the session.

A program error ends the console. An error of a command does not, and neither does a file that
cannot be loaded.

## Main definitions

* `Console.Action` — what a line asks the console to do
* `Console.turn` — a line of input
-/

namespace LineDebugger.Console

/-- What a line asks the console to do. -/
inductive Action
  | quit
  /-- Load a file as a program. -/
  | load (path : String)
  /-- Give the line to the session. -/
  | forward (line : String)
deriving DecidableEq

/-- The words that leave the console. -/
def quitWords : List String := ["quit", "q"]

/-- What comes before the name of a file. -/
def loadWord : List Char := "load ".toList

/-- The file that a line asks to load: it names exactly one. -/
def loadPath? (line : String) : Option String :=
  if loadWord.isPrefixOf line.toList then
    match ShellWords.split? (String.ofList (line.toList.drop loadWord.length)) with
    | some [path] => some path
    | _ => none
  else none

/-- What a line asks the console to do. -/
def Action.ofLine (line : String) : Action :=
  if quitWords.contains line then .quit
  else
    match loadPath? line with
    | some path => .load path
    | none => .forward line

/-- Why the console ended in failure. -/
inductive Failure
  /-- The program failed. -/
  | program (error : ProgramError)
  /-- The input is not text. -/
  | input (error : ReadError)
deriving DecidableEq

/-- The failure in words. -/
def Failure.message : Failure → String
  | program error => error.message
  | input error => s!"IO error: {error.message}"

/-- How the console ended. -/
inductive Ending
  | left
  | failed (failure : Failure)
deriving DecidableEq

/-- What came of a line: the session, the events, and the end if it was the last line. -/
structure Turn where
  session : Session
  events : List Event
  ending? : Option Ending

/-- Loads a file as a program. -/
def load (read : String → Except ReadError String) (s : Session) (path : String) : Turn :=
  match read path with
  | .error error => ⟨s, [.fileUnreadable path error], none⟩
  | .ok source =>
    let o := s.load source
    ⟨o.state, o.events, none⟩

/-- Gives a line to the session. -/
def forward (s : Session) (line : String) : Turn :=
  let o := s.execute line
  match o.error? with
  | none => ⟨o.state, o.events, none⟩
  | some (.program error) => ⟨o.state, o.events, some (.failed (.program error))⟩
  | some error => ⟨o.state, o.events ++ [.commandFailed error], none⟩

/-- Takes a line of input. -/
def turn (read : String → Except ReadError String) (s : Session) (line : InputLine) : Turn :=
  match line.stripped? with
  | none => ⟨s, [], some (.failed (.input .notUtf8))⟩
  | some text =>
    match Action.ofLine text with
    | .quit => ⟨s, [], some .left⟩
    | .load path => load read s path
    | .forward text => forward s text

end LineDebugger.Console
