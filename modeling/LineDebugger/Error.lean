import LineDebugger.Program.Error

/-!
# Errors of commands and of reading

A command given to the debugger fails either because the program under it failed or because the
command itself was wrong, and the difference matters: only the first kind ends the run. Reading a
file or an input fails for reasons of its own, in the words of the operating system.

## Main definitions

* `CommandError` — why a command failed
* `ReadError` — why a file could not be read as text
-/

namespace LineDebugger

/-- Why a command failed. -/
inductive CommandError
  /-- The program failed. -/
  | program (error : ProgramError)
  /-- A command about breakpoints does not name exactly one line. -/
  | invalidBreakpoint (command : String)
deriving DecidableEq

namespace CommandError

/-- Did the program fail, rather than the command? -/
def isProgram : CommandError → Bool
  | program _ => true
  | invalidBreakpoint _ => false

/-- The error in words. -/
def message : CommandError → String
  | program error => error.message
  | invalidBreakpoint command => s!"invalid breakpoint command '{command}'"

end CommandError

/-- Why a file, or an input, could not be read as text. -/
inductive ReadError
  /-- There is no such file. -/
  | notFound
  /-- The path leads to a directory. -/
  | isDirectory
  /-- The bytes are not UTF-8. -/
  | notUtf8
  /-- The path holds the character with code point 0. -/
  | nulInPath
  /-- The system gave another reason. -/
  | system (reason : String)
deriving DecidableEq

/-- The error in words. -/
def ReadError.message : ReadError → String
  | notFound => "No such file or directory (os error 2)"
  | isDirectory => "Is a directory (os error 21)"
  | notUtf8 => "stream did not contain valid UTF-8"
  | nulInPath => "file name contained an unexpected NUL byte"
  | system reason => reason

end LineDebugger
