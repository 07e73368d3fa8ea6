import LineDebugger.CommandLine

/-!
# The program

The outermost layer: it reads files, settings and lines from the outside, hands them to
`CommandLine`, and writes what comes back. It decides nothing.
-/

namespace LineDebugger.Main

/-- Why the system did not give a file. -/
def readError : IO.Error → ReadError
  | .noFileOrDirectory .. => .notFound
  | .inappropriateType .. => .isDirectory
  | error => .system (toString error)

/-- The bytes of a file. -/
def readFile (path : String) : IO (Except ReadError (List UInt8)) := do
  try
    return .ok (← IO.FS.readBinFile path).toList
  catch error =>
    return .error (readError error)

/-- The surroundings in which only the given files are known. -/
def surroundings (logFilter? : Option String) (paths : List String) :
    IO CommandLine.Surroundings := do
  let files ← paths.mapM fun path => return (path, ← readFile path)
  return ⟨fun path => (files.lookup path).getD (.error .notFound), logFilter?⟩

/-- Writes what came back. -/
def write (writes : List CommandLine.Write) : IO Unit := do
  for w in writes do
    match w with
    | .output text => IO.print text
    | .report text => IO.eprint text
  (← IO.getStdout).flush

/-- The bytes of the input up to and with the next newline. -/
partial def nextBytes (input : IO.FS.Stream) (past : List UInt8) : IO (List UInt8) := do
  match (← input.read 1).toList with
  | [] => return past.reverse
  | b :: _ => if b == 10 then return (b :: past).reverse else nextBytes input (b :: past)

/-- The next line of input, or none at its end. -/
def nextLine (input : IO.FS.Stream) : IO (Option InputLine) := do
  return (InputLine.ofBytes (← nextBytes input [])).head?

/-- The files that a line may ask for. -/
def filesOf (line : InputLine) : List String :=
  (line.stripped?.bind Console.loadPath?).toList

/-- Takes lines until the program ends or there are no more. -/
partial def loop (logFilter? : Option String) (input : IO.FS.Stream) :
    CommandLine.Phase → IO Bool
  | .ended success => return success
  | phase => do
    match ← nextLine input with
    | none => return CommandLine.close phase
    | some line =>
      let around ← surroundings logFilter? (filesOf line)
      let (writes, next) := CommandLine.feed around phase line
      write writes
      loop logFilter? input next

end LineDebugger.Main

/-- Runs the program. -/
def main (arguments : List String) : IO UInt32 := do
  let logFilter? ← IO.getEnv "RUST_LOG"
  let options := LineDebugger.CommandLine.Options.ofArguments arguments
  let around ← LineDebugger.Main.surroundings logFilter?
    (options.configPath?.toList ++ options.scriptPath?.toList)
  let (writes, phase) := LineDebugger.CommandLine.start around arguments
  LineDebugger.Main.write writes
  let success ← LineDebugger.Main.loop logFilter? (← IO.getStdin) phase
  return if success then 0 else 1
