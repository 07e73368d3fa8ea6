import LineDebugger.Config
import LineDebugger.Console
import LineDebugger.Log.Filter
import LineDebugger.Server.Basic

/-!
# The command line

The program takes its arguments first and then its input line by line. What it writes is an answer
of these steps and not an effect, so the whole program can be run on paper: `CommandLine.run` does
so for an input that is known as a whole.

The arguments choose between the server and the console, may name a configuration, and may name a
program to load. The configuration is read first and has to be in order. A program to load concerns
the console only.

## Main definitions

* `CommandLine.Options` — what the arguments say
* `CommandLine.Surroundings` — files and settings from outside
* `CommandLine.Phase` — the program between two lines of input
* `CommandLine.start`, `CommandLine.feed`, `CommandLine.close` — its steps
* `CommandLine.run` — the program on a whole input
-/

namespace LineDebugger.CommandLine

/-! ### Arguments -/

/-- What the arguments say. -/
structure Options where
  /-- Serve requests? -/
  serve : Bool
  configPath? : Option String
  /-- The program to load. -/
  scriptPath? : Option String
deriving DecidableEq

/-- The argument before the path of a configuration. -/
def configFlag : String := "--config"

/-- The argument that asks for the server. -/
def serveFlag : String := "--json"

/-- The argument after the first one that announces a configuration. -/
def configArgument? (arguments : List String) : Option String :=
  (arguments.dropWhile (· != configFlag))[1]?

/-- The last argument that neither is a flag nor follows one that announces a configuration. -/
def scriptArgument? (arguments : List String) : Option String :=
  (((arguments.zip ("" :: arguments)).filter fun (argument, before) =>
    !("--".toList.isPrefixOf argument.toList) && before != configFlag).map Prod.fst).getLast?

/-- Reads the arguments. -/
def Options.ofArguments (arguments : List String) : Options :=
  ⟨arguments.contains serveFlag, configArgument? arguments, scriptArgument? arguments⟩

/-! ### Surroundings -/

/-- Files and settings from outside. -/
structure Surroundings where
  /-- The bytes of a file. -/
  file : String → Except ReadError (List UInt8)
  /-- The filter for the log that the user has set. -/
  logFilter? : Option String

/-- The text of a file. -/
def Surroundings.read (around : Surroundings) (path : String) : Except ReadError String :=
  if path.contains '\x00' then .error .nulInPath
  else
    match around.file path with
    | .error error => .error error
    | .ok bytes =>
      match InputLine.decode? bytes with
      | none => .error .notUtf8
      | some text => .ok text

/-- The configuration that the arguments ask for. -/
def readConfig (around : Surroundings) (options : Options) : Except ConfigError Config :=
  match options.configPath? with
  | none => .ok .standard
  | some path =>
    match around.read path with
    | .error error => .error (.read error)
    | .ok text =>
      match Config.ofText text with
      | .error error => .error (.decode error)
      | .ok config => .ok config

/-! ### What is written -/

/-- A piece of text on one of the two outputs. -/
inductive Write
  | output (text : String)
  | report (text : String)
deriving DecidableEq

/-- All that was written to the output. -/
def outputText (writes : List Write) : String :=
  String.join <| writes.filterMap fun
    | .output text => some text
    | .report _ => none

/-- All that was reported. -/
def reportText (writes : List Write) : String :=
  String.join <| writes.filterMap fun
    | .output _ => none
    | .report text => some text

/-- The complaint with which the program ends. -/
def complaint (message : String) : Write := .report s!"❌ {message}\n"

/-- The log entry of an event, if there is one and it is shown. -/
def logged (filter : Log.Filter) (event : Event) : List Write :=
  (event.entry?.toList.filter filter.shows).map fun entry => .report entry.written

/-- An event on the console: a line of output or a log entry. -/
def shown (filter : Log.Filter) (event : Event) : List Write :=
  (event.output?.toList.map fun line => .output (line ++ "\n")) ++ logged filter event

/-- What the console shows at its start. -/
def banner : Write :=
  .report ("Commands: set code, run, step, step over, print mem, print trace, " ++
    "add break <line>, load <path>, quit\n")

/-- What the console shows before it takes a line. -/
def prompt : Write := .report "> "

/-! ### The steps of the program -/

/-- The program between two lines of input. -/
inductive Phase
  | serving (filter : Log.Filter) (session : Session)
  | conversing (filter : Log.Filter) (session : Session)
  | ended (success : Bool)

/-- Starts the program. -/
def start (around : Surroundings) (arguments : List String) : List Write × Phase :=
  let options := Options.ofArguments arguments
  match readConfig around options with
  | .error error =>
    let path := options.configPath?.getD ""
    ([complaint s!"Failed to load config {path}: {error.message}"], .ended false)
  | .ok config =>
    let (filter, warnings) :=
      Log.Filter.ofText (around.logFilter?.getD (config.logLevel?.getD "warn"))
    let opening := warnings.map (fun warning => .report s!"warning: {warning}, ignoring it\n") ++
      logged filter (.started arguments)
    let session := Session.initial config.depthLimit
    if options.serve then (opening ++ logged filter .serving, .serving filter session)
    else
      match options.scriptPath?.map around.read with
      | none => (opening ++ [banner, prompt], .conversing filter session)
      | some (.error error) =>
        (opening ++ [complaint s!"Could not read program: {error.message}"], .ended false)
      | some (.ok source) =>
        let o := session.load source
        (opening ++ o.events.flatMap (shown filter) ++ [banner, prompt],
          .conversing filter o.state)

/-- Takes a line of input. -/
def feed (around : Surroundings) : Phase → InputLine → List Write × Phase
  | .ended success, _ => ([], .ended success)
  | .serving filter session, line =>
    match Server.turn session line with
    | .passed => ([], .serving filter session)
    | .answered answer =>
      (answer.events.flatMap (logged filter) ++ [.output (Server.responseLine answer.response)],
        .serving filter answer.session)
    | .unreadable => ([complaint ReadError.notUtf8.message], .ended false)
  | .conversing filter session, line =>
    let t := Console.turn around.read session line
    let writes := t.events.flatMap (shown filter)
    match t.ending? with
    | none => (writes ++ [prompt], .conversing filter t.session)
    | some .left => (writes, .ended true)
    | some (.failed failure) => (writes ++ [complaint failure.message], .ended false)

/-- Ends the program when there is no more input: did it succeed? -/
def close : Phase → Bool
  | .ended success => success
  | _ => true

/-- What the program wrote, and whether it succeeded. -/
structure Result where
  writes : List Write
  success : Bool

/-- Takes one line of input after another. -/
def feedAll (around : Surroundings) (phase : Phase) : List InputLine → Result
  | [] => ⟨[], close phase⟩
  | line :: lines =>
    let (writes, next) := feed around phase line
    let rest := feedAll around next lines
    { rest with writes := writes ++ rest.writes }

/-- Runs the program on a whole input. -/
def run (around : Surroundings) (arguments : List String) (input : List UInt8) : Result :=
  let (writes, phase) := start around arguments
  let rest := feedAll around phase (InputLine.ofBytes input)
  { rest with writes := writes ++ rest.writes }

end LineDebugger.CommandLine
