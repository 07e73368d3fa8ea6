import LineDebugger.Server.Message
import LineDebugger.Session
import LineDebugger.Text.InputLine

/-!
# The server

The server drives a session by requests, one to a line, and answers each with a response on a line
of its own. A line that is no request is answered too, under the number 0, and does not reach the
session. Blank lines are passed over. A line that is not text ends the service.

## Main definitions

* `Server.handle` — a request
* `Server.handleLine` — a line that should hold a request
* `Server.turn` — a line of input
* `Server.serve` — a whole input
-/

namespace LineDebugger.Server

/-- The session after a line, the answer to it, and the events on the way. -/
structure Answer where
  session : Session
  response : Response
  events : List Event

/-- Handles a request. -/
def handle (s : Session) (r : Request) : Answer :=
  let o := s.execute r.command
  { session := o.state
    response := ⟨r.seq, o.error?.isNone, outputs o.events, o.error?.map CommandError.message⟩
    events := .requestReceived r.seq r.command :: o.events ++
      (o.error?.map (Event.requestFailed r.seq)).toList }

/-- The response to a line that holds no request. -/
def refusal (error : Json.Error) : Response :=
  ⟨0, false, [], some s!"invalid request: {error.message}"⟩

/-- Handles a line that should hold a request. -/
def handleLine (s : Session) (line : String) : Answer :=
  match Request.decode line with
  | .ok r => handle s r
  | .error error => ⟨s, refusal error, []⟩

/-- What came of a line of input. -/
inductive Turn
  /-- The line is blank. -/
  | passed
  /-- The line was answered. -/
  | answered (answer : Answer)
  /-- The line is not text. -/
  | unreadable

/-- Takes a line of input. -/
def turn (s : Session) (line : InputLine) : Turn :=
  match line.unwrapped? with
  | none => .unreadable
  | some text => if Text.isAllBlank text then .passed else .answered (handleLine s text)

/-- What came of an input. -/
structure Service where
  session : Session
  /-- The responses in order. -/
  responses : List Response
  events : List Event
  /-- Why the service ended before the input did, if so. -/
  error? : Option ReadError

/-- Serves the lines of an input, up to the first that is not text. -/
def serve (s : Session) : List InputLine → Service
  | [] => ⟨s, [], [], none⟩
  | line :: lines =>
    match turn s line with
    | .unreadable => ⟨s, [], [], some .notUtf8⟩
    | .passed => serve s lines
    | .answered answer =>
      let rest := serve answer.session lines
      { rest with
        responses := answer.response :: rest.responses
        events := answer.events ++ rest.events }

/-- A response on a line of its own. -/
def responseLine (r : Response) : String := r.encode ++ "\n"

/-- All that is written while an input is served. -/
def Service.written (service : Service) : String :=
  String.join (service.responses.map responseLine)

end LineDebugger.Server
