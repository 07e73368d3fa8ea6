import LineDebugger.Proofs.Session.Inputs
import LineDebugger.Server.Basic

/-!
# The server is a plain session behind requests

Between the lines that a server is given and the session behind it stands the reading of requests,
and nothing else does. The session goes through what the commands of the requests ask of a plain
session, in their order, and every response tells what its own command did. A line that is no
request is answered as well, but the session does not hear of it, not even if it awaits a program
or has one in the middle of a call.

What a command puts out goes into a sink that is kept beside the session, and the server empties
the sink for every response. That no line is lost, and none is told with the response after, rests
on the sink being empty whenever a line arrives. `Recorder` is the session with its sink. A
response is made of all that is in the sink, and since the sink was empty this is what the command
has just put out, a command that fails included.

## Main definitions

* `Server.commands` — what the requests among some lines ask of the session
* `Server.after`, `Server.responses` — the session after some lines, and the responses to them
* `Recorder` — a session with a sink for its output
* `Recorder.handleLine` — the server's way with a line, sink included

## Main results

* `Recorder.handleLines_eq` — the sink is empty after every line, and the responses are the same
* `Server.responses_tell_plain_session` — the server and the plain session
-/

namespace LineDebugger

namespace Server

variable {s : Session} {line : String} {lines : List String} {r : Request} {error : Json.Error}

/-! ### Requests -/

/-- The requests among some lines. -/
def requests (lines : List String) : List Request :=
  lines.filterMap fun line => (Request.decode line).toOption

/-- What the requests among some lines ask of the session. -/
def commands (lines : List String) : List String := (requests lines).map Request.command

/-- A line that holds a request can be read as one. -/
theorem decode_of_toOption_eq_some (h : (Request.decode line).toOption = some r) :
    Request.decode line = .ok r := by
  cases hread : Request.decode line with
  | ok r' => rw [hread] at h; exact congrArg Except.ok (Option.some.inj h)
  | error error => rw [hread] at h; cases h

/-- A line that holds no request has something wrong with it. -/
theorem exists_error_of_toOption_eq_none (h : (Request.decode line).toOption = none) :
    ∃ error, Request.decode line = .error error := by
  cases hread : Request.decode line with
  | ok r => rw [hread] at h; cases h
  | error error => exact ⟨error, rfl⟩

theorem commands_cons_of_ok (h : Request.decode line = .ok r) (lines : List String) :
    commands (line :: lines) = r.command :: commands lines := by
  simp [commands, requests, h, Except.toOption]

theorem commands_cons_of_error (h : Request.decode line = .error error) (lines : List String) :
    commands (line :: lines) = commands lines := by
  simp [commands, requests, h, Except.toOption]

/-! ### The server on some lines -/

/-- The session after some lines. -/
def after (s : Session) (lines : List String) : Session :=
  lines.foldl (fun s line => (handleLine s line).session) s

/-- The responses to some lines. -/
def responses (s : Session) : List String → List Response
  | [] => []
  | line :: lines => (handleLine s line).response :: responses (handleLine s line).session lines

@[simp] theorem after_nil (s : Session) : after s [] = s := rfl

@[simp] theorem after_cons (s : Session) (line : String) (lines : List String) :
    after s (line :: lines) = after (handleLine s line).session lines := rfl

theorem after_append (s : Session) (lines more : List String) :
    after s (lines ++ more) = after (after s lines) more :=
  List.foldl_append

@[simp] theorem length_responses (s : Session) (lines : List String) :
    (responses s lines).length = lines.length := by
  induction lines generalizing s with
  | nil => rfl
  | cons line lines ih => simp [responses, ih]

theorem responses_append (s : Session) (lines more : List String) :
    responses s (lines ++ more) = responses s lines ++ responses (after s lines) more := by
  induction lines generalizing s with
  | nil => rfl
  | cons line lines ih => simp [responses, ih]

/-! ### Requests given one after another -/

/-- The session after some requests. -/
def afterRequests (s : Session) (requests : List Request) : Session :=
  requests.foldl (fun s r => (handle s r).session) s

/-- The responses to some requests. -/
def responsesTo (s : Session) : List Request → List Response
  | [] => []
  | r :: requests => (handle s r).response :: responsesTo (handle s r).session requests

/-- A request is a line for the session. -/
theorem afterRequests_eq (s : Session) (requests : List Request) :
    afterRequests s requests = s.after (requests.map Request.command) := by
  rw [Session.after, List.foldl_map]
  rfl

/-- The responses hold the output of the commands. -/
theorem output_responsesTo (s : Session) (requests : List Request) :
    (responsesTo s requests).map Response.output =
      (s.answers ((requests.map Request.command).map .line)).map fun o => outputs o.events := by
  induction requests generalizing s with
  | nil => rfl
  | cons r requests ih => exact congrArg _ (ih _)

/-! ### What the session is asked -/

/-- A request is handled. -/
theorem handleLine_of_ok (h : Request.decode line = .ok r) : handleLine s line = handle s r := by
  rw [handleLine, h]

/-- A line that is no request is refused, and the session stays as it is. -/
theorem handleLine_of_error (h : Request.decode line = .error error) :
    handleLine s line = ⟨s, refusal error, []⟩ := by
  rw [handleLine, h]

/-- The session goes through the commands of the requests. -/
theorem after_eq (s : Session) (lines : List String) :
    after s lines = s.after (commands lines) := by
  induction lines generalizing s with
  | nil => rfl
  | cons line lines ih =>
    rw [after_cons, ih]
    cases h : Request.decode line with
    | ok r => rw [handleLine_of_ok h, commands_cons_of_ok h]; rfl
    | error error => rw [handleLine_of_error h, commands_cons_of_error h]

/-- The responses hold the output of the commands of the requests. -/
theorem output_responses (s : Session) (lines : List String) :
    (responses s lines).flatMap Response.output = s.outputsOf (commands lines) := by
  induction lines generalizing s with
  | nil => rfl
  | cons line lines ih =>
    rw [responses, List.flatMap_cons, ih]
    cases h : Request.decode line with
    | ok r => rw [handleLine_of_ok h, commands_cons_of_ok h]; rfl
    | error error => rw [handleLine_of_error h, commands_cons_of_error h]; rfl

end Server

/-! ### The sink -/

/-- A session with a sink for its output. -/
structure Recorder where
  session : Session
  /-- The lines that have been put out and that nobody has taken away yet. -/
  sink : List String

namespace Recorder

/-- The session takes a line, and what it puts out goes into the sink. -/
def execute (r : Recorder) (line : String) : Recorder × Option CommandError :=
  let o := r.session.execute line
  (⟨o.state, r.sink ++ outputs o.events⟩, o.error?)

/-- Handles a request: all that is in the sink then is taken away for the response. -/
def handle (r : Recorder) (request : Request) : Recorder × Response :=
  let (next, error?) := r.execute request.command
  ({ next with sink := [] },
    ⟨request.seq, error?.isNone, next.sink, error?.map CommandError.message⟩)

/-- Handles a line that should hold a request. -/
def handleLine (r : Recorder) (line : String) : Recorder × Response :=
  match Request.decode line with
  | .ok request => r.handle request
  | .error error => (r, Server.refusal error)

/-- Handles one line after another. -/
def handleLines (r : Recorder) : List String → Recorder × List Response
  | [] => (r, [])
  | line :: lines =>
    let (next, response) := r.handleLine line
    let (last, responses) := next.handleLines lines
    (last, response :: responses)

/-- The session takes one line after another, and nobody empties the sink. -/
def feed (r : Recorder) (lines : List String) : Recorder :=
  lines.foldl (fun r line => (r.execute line).1) r

/-- With an empty sink, a line has the response that the server gives, and leaves the sink
empty. -/
theorem handleLine_eq (s : Session) (line : String) :
    (⟨s, []⟩ : Recorder).handleLine line =
      (⟨(Server.handleLine s line).session, []⟩, (Server.handleLine s line).response) := by
  rw [handleLine, Server.handleLine]
  cases Request.decode line <;> rfl

/-- The sink is empty after every line, and the responses are those of the server. -/
theorem handleLines_eq (s : Session) (lines : List String) :
    (⟨s, []⟩ : Recorder).handleLines lines =
      (⟨Server.after s lines, []⟩, Server.responses s lines) := by
  induction lines generalizing s with
  | nil => rfl
  | cons line lines ih =>
    simp only [handleLines, handleLine_eq, ih, Server.after_cons, Server.responses]

/-- A sink that nobody empties holds the whole output. -/
theorem feed_eq (s : Session) (sink lines : List String) :
    (⟨s, sink⟩ : Recorder).feed lines = ⟨s.after lines, sink ++ s.outputsOf lines⟩ := by
  induction lines generalizing s sink with
  | nil => simp [feed, Session.outputsOf]
  | cons line lines ih =>
    show (⟨_, sink ++ outputs (s.execute line).events⟩ : Recorder).feed lines = _
    rw [ih, List.append_assoc]
    rfl

end Recorder

namespace Server

/-- **The server tells what a plain session does.** After any lines its session is that of a plain
session that was given the commands of the requests among them. Each request has a response with
its number, which tells of its command, executed in its turn, whether it succeeded, what it put
out, and the error in words if it failed. A line that is no request has a response with the number
0 that says so, and without this line everything else is the same. The sink is empty after every
line; so what all the responses hold together is the whole output of the plain session. -/
theorem responses_tell_plain_session (s : Session) (lines : List String) :
    after s lines = s.after (commands lines) ∧
      (⟨s, []⟩ : Recorder).handleLines lines = (⟨after s lines, []⟩, responses s lines) ∧
      (⟨s, []⟩ : Recorder).feed (commands lines) =
        ⟨after s lines, (responses s lines).flatMap Response.output⟩ ∧
      ∀ before line rest, lines = before ++ line :: rest →
        (∀ r, Request.decode line = .ok r →
          let o := (s.after (commands before)).execute r.command
          (responses s lines)[before.length]? =
            some ⟨r.seq, o.error?.isNone, outputs o.events, o.error?.map CommandError.message⟩) ∧
        ∀ error, Request.decode line = .error error →
          (responses s lines)[before.length]? =
              some ⟨0, false, [], some s!"invalid request: {error.message}"⟩ ∧
            after s lines = after s (before ++ rest) ∧
            (responses s lines).eraseIdx before.length = responses s (before ++ rest) := by
  refine ⟨after_eq s lines, Recorder.handleLines_eq s lines, ?_, ?_⟩
  · rw [Recorder.feed_eq, List.nil_append, after_eq, output_responses]
  · rintro before line rest rfl
    have hsplit : responses s (before ++ line :: rest) = responses s before ++
        (handleLine (after s before) line).response ::
          responses (handleLine (after s before) line).session rest :=
      responses_append s before (line :: rest)
    have hresponse : (responses s (before ++ line :: rest))[before.length]? =
        some (handleLine (after s before) line).response := by
      rw [hsplit, List.getElem?_append_right (by simp)]
      simp
    constructor
    · intro r hr
      rw [hresponse, handleLine_of_ok hr, after_eq]
      rfl
    · intro error herror
      rw [hresponse, hsplit, handleLine_of_error herror]
      refine ⟨rfl, ?_, ?_⟩
      · rw [after_append, after_append, after_cons, handleLine_of_error herror]
      · rw [List.eraseIdx_append_of_length_le (by simp), responses_append]
        simp

/-- A program is typed after a line that is no request, and fails while it is run. -/
def conversation : List String :=
  ["\x7b\x22seq\x22: 7, \x22command\x22: \x22set code\x22\x7d", "not a request",
    "[8, \x22set a 1\\nprint a\\nsub a 1\x22]", "[9, \x22run\x22]"]

/-- The line that is no request leaves the program awaited, and what was put out before the failure
is told with it. -/
theorem conversation_told :
    (∃ error, Request.decode "not a request" = .error error ∧
      after (.initial 5) conversation = after (.initial 5) (conversation.eraseIdx 1)) ∧
    Request.decode "[9, \x22run\x22]" = .ok ⟨9, "run"⟩ ∧
      (responses (.initial 5) conversation)[3]? = some ⟨9, false, ["1"],
        some "line 2: variable 'a' can only hold natural numbers, got 0"⟩ := by
  obtain ⟨-, -, -, htold⟩ := responses_tell_plain_session (.initial 5) conversation
  obtain ⟨error, herror⟩ : ∃ error, Request.decode "not a request" = .error error :=
    exists_error_of_toOption_eq_none (by decide +kernel)
  have hread : Request.decode "[9, \x22run\x22]" = .ok ⟨9, "run"⟩ :=
    decode_of_toOption_eq_some (by decide +kernel)
  obtain ⟨-, hrefused⟩ := htold (conversation.take 1) _ (conversation.drop 2) rfl
  obtain ⟨hhandled, -⟩ := htold (conversation.take 3) _ [] rfl
  refine ⟨⟨error, herror, (hrefused error herror).2.1⟩, hread, (hhandled _ hread).trans ?_⟩
  decide +kernel

end Server

end LineDebugger
