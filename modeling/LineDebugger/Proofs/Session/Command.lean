import LineDebugger.Proofs.Command.Grammar
import LineDebugger.Proofs.Engine.Steps
import LineDebugger.Session

/-!
# What commands do to the engine

A line typed to a session passes through three stages: it is read as a command, the command is
carried out, and the session starts over if the execution of the program has come to an ending.
The lemmas here take the stages apart, so that a statement about a line becomes one about the
engine.

Three commands move the engine. A step is a step of the engine. A run goes to a breakpoint. A step
over is a step if that enters no function, and otherwise goes to the line after the call. All
else that these commands do is to tell the log, so `Reflects` leaves the log out.

## Main definitions

* `Session.ending?` — the ending that a command has brought the execution to, if any
* `Session.resets` — does the session start over after this line?
* `Session.Reflects` — a command does to its session what was done to the engine

## Main results

* `Session.execute_of_ne_empty`, `Session.execute_of_parse` — a command is carried out and settled
* `Session.execute_eq_of_reflects` — what a command that moves the engine leaves behind
* `Session.run_reflects`, `Session.step_reflects`, `Session.stepOver_reflects_step`,
  `Session.stepOver_reflects_go` — what the moving commands do
* `Session.perform_reflects_steps` — each of them makes some steps, and at least one
-/

namespace LineDebugger

namespace Session

/-! ### Endings and starting over -/

/-- The ending that a command has brought the execution to, if any. A command that was wrong itself
ends nothing. -/
def ending? (o : Outcome Session CommandError) : Option Ending :=
  match o.error? with
  | some (.program error) => some (.failed error)
  | _ => o.state.engine.ended?

/-- A session starts over exactly when the execution has come to an ending. -/
theorem endsRun_eq (o : Outcome Session CommandError) : endsRun o = (ending? o).isSome := by
  rw [endsRun, ending?]
  rcases o.error? with _ | (error | command)
  · exact (Engine.isSome_ended? _).symm
  · rfl
  · exact (Engine.isSome_ended? _).symm

@[simp] theorem settle_error? (o : Outcome Session CommandError) :
    (settle o).error? = o.error? := by
  rw [settle]
  split <;> rfl

/-- Starting over puts nothing out. -/
@[simp] theorem outputs_settle (o : Outcome Session CommandError) :
    outputs (settle o).events = outputs o.events := by
  rw [settle]
  split
  · have hreset : outputs [.sessionReset] = [] := rfl
    rw [outputs_append, hreset, List.append_nil]
  · rfl

theorem settle_of_no_ending {o : Outcome Session CommandError} (h : ending? o = none) :
    settle o = o := by
  rw [settle, if_neg (by rw [endsRun_eq, h]; exact Bool.false_ne_true)]

/-! ### Reading a line -/

/-- The empty line is no command. -/
theorem ne_empty_of_parse {line : String} {c : Command} (h : Command.parse line = .ok (some c)) :
    line ≠ "" := by
  rintro rfl
  have hempty : Command.parse "" = .ok none := rfl
  rw [hempty] at h
  cases h

/-- The outcome of a command before the session may start over. -/
def outcome (s : Session) (c : Command) : Outcome Session CommandError :=
  (s.perform c).mapError .program

theorem outcome_error? (s : Session) (c : Command) :
    (s.outcome c).error? = (s.perform c).error?.map .program := rfl

/-- Does the session start over after this line? -/
def resets (s : Session) (line : String) : Bool :=
  line != "" && !s.awaitingSource && endsRun (s.dispatch line)

theorem dispatch_of_parse {s : Session} {line : String} {c : Command}
    (h : Command.parse line = .ok (some c)) : s.dispatch line = s.outcome c := by
  rw [dispatch, h]
  rfl

/-- A line that is neither empty nor a program is dispatched and settled. -/
theorem execute_of_ne_empty {s : Session} {line : String} (hline : line ≠ "")
    (ha : s.awaitingSource = false) : s.execute line = settle (s.dispatch line) := by
  rw [execute, if_neg hline, ha]
  rfl

/-- A line that is a command is carried out and settled. -/
theorem execute_of_parse {s : Session} {line : String} {c : Command}
    (ha : s.awaitingSource = false) (h : Command.parse line = .ok (some c)) :
    s.execute line = settle (s.outcome c) := by
  rw [execute_of_ne_empty (ne_empty_of_parse h) ha, dispatch_of_parse h]

theorem resets_of_parse {s : Session} {line : String} {c : Command}
    (ha : s.awaitingSource = false) (h : Command.parse line = .ok (some c)) :
    s.resets line = (ending? (s.outcome c)).isSome := by
  rw [resets, dispatch_of_parse h, endsRun_eq]
  simp [ha, ne_empty_of_parse h]

/-! ### Commands that move the engine -/

/-- The session did what was done to its engine; news for the log apart. -/
structure Reflects (s : Session) (o : Outcome Session ProgramError)
    (m : Outcome Engine ProgramError) : Prop where
  state : o.state = { s with engine := m.state }
  error? : o.error? = m.error?
  outputs : outputs o.events = outputs m.events

variable {s : Session} {p : Program}

theorem Reflects.ending? {o : Outcome Session ProgramError} {m : Outcome Engine ProgramError}
    (h : Reflects s o m) : Session.ending? (o.mapError .program) = Engine.ending? m := by
  rw [Session.ending?, Engine.ending?, Outcome.mapError, h.error?, h.state]
  cases hm : m.error? <;> rfl

/-- The session starts over after a command exactly if the engine came to an ending. -/
theorem resets_of_reflects {line : String} {c : Command} {m : Outcome Engine ProgramError}
    (ha : s.awaitingSource = false) (hparse : Command.parse line = .ok (some c))
    (h : Reflects s (s.perform c) m) : s.resets line = (Engine.ending? m).isSome := by
  rw [resets_of_parse ha hparse, outcome, h.ending?]

theorem ending?_eq_none_of_reflects {line : String} {c : Command}
    {m : Outcome Engine ProgramError} (ha : s.awaitingSource = false)
    (hparse : Command.parse line = .ok (some c)) (h : Reflects s (s.perform c) m)
    (hstays : s.resets line = false) : Engine.ending? m = none := by
  rwa [resets_of_reflects ha hparse h, Option.isSome_eq_false_iff, Option.isNone_iff_eq_none]
    at hstays

/-- A command does to its session what was done to the engine, and the session starts over if the
engine came to an ending. -/
theorem execute_eq_of_reflects {line : String} {c : Command} {m : Outcome Engine ProgramError}
    (ha : s.awaitingSource = false) (hparse : Command.parse line = .ok (some c))
    (h : Reflects s (s.perform c) m) :
    (s.execute line).state =
        { s with engine := if (Engine.ending? m).isSome then m.state.restarted else m.state } ∧
      (s.execute line).error? = m.error?.map .program ∧
        outputs (s.execute line).events = outputs m.events := by
  have hends : endsRun (s.outcome c) = (Engine.ending? m).isSome := by
    rw [endsRun_eq, outcome, h.ending?]
  rw [execute_of_parse ha hparse, settle_error?, outputs_settle, outcome_error?, h.error?]
  refine ⟨?_, rfl, h.outputs⟩
  have hstate : (s.outcome c).state = { s with engine := m.state } := h.state
  rw [settle, hends]
  split
  · rw [hstate]
  · exact hstate

/-- If the engine came to no ending, the line does to the session what was done to the engine. -/
theorem execute_of_reflects {line : String} {c : Command} {m : Outcome Engine ProgramError}
    (ha : s.awaitingSource = false) (hparse : Command.parse line = .ok (some c))
    (h : Reflects s (s.perform c) m) (hending : Engine.ending? m = none) :
    (s.execute line).error? = none ∧ (s.execute line).state = { s with engine := m.state } := by
  obtain ⟨hstate, herror, -⟩ := execute_eq_of_reflects ha hparse h
  rw [hstate, herror, hending, (Engine.ending?_eq_none_iff.1 hending).1]
  exact ⟨rfl, rfl⟩

/-- A step is a step of the engine. -/
theorem step_reflects (hp : s.engine.program? = some p) : Reflects s s.step s.engine.step := by
  rw [step, hp]
  exact ⟨rfl, rfl, rfl⟩

/-- A run goes to a breakpoint. -/
theorem run_reflects (hp : s.engine.program? = some p) :
    Reflects s s.run (s.engine.go fun e => s.breakpoints.contains e.cursor) := by
  rw [run, hp]
  dsimp only
  rw [withEngine, ← Engine.go]
  cases herr : (s.engine.go fun e => s.breakpoints.contains e.cursor).error? with
  | some error =>
    rw [Outcome.andThen_of_error? herr]
    exact ⟨rfl, rfl, rfl⟩
  | none =>
    rw [Outcome.andThen_of_success herr]
    split
    · refine ⟨rfl, herr.symm, ?_⟩
      have hstopped : ∀ line, LineDebugger.outputs [.stopped line] = [] := fun _ => rfl
      rw [Outcome.map_events, Outcome.after_events, Outcome.done_events, outputs_append, hstopped,
        List.append_nil]
    · refine ⟨rfl, herr.symm, ?_⟩
      rw [Outcome.map_events, Outcome.after_events, Outcome.quiet_events, List.append_nil]

/-- A step over that enters no function, or fails, is a step. -/
theorem stepOver_reflects_step (hp : s.engine.program? = some p)
    (h : s.engine.step.error? = none →
      s.engine.step.state.stack.length ≤ s.engine.stack.length) :
    Reflects s s.stepOver s.engine.step := by
  have hstep := step_reflects hp
  rw [stepOver]
  cases herr : s.engine.step.error? with
  | some error =>
    rw [Outcome.andThen_of_error? (hstep.error?.trans herr)]
    exact hstep
  | none =>
    rw [Outcome.andThen_of_success (hstep.error?.trans herr), hstep.state]
    have hquiet : Reflects s ((Outcome.quiet { s with engine := s.engine.step.state }).after
        s.step.events) s.engine.step :=
      ⟨rfl, herr.symm, by simpa using hstep.outputs⟩
    dsimp only
    split
    · next frame outer hs =>
      rw [if_neg (Nat.not_lt.2 (h herr))]
      exact hquiet
    · exact hquiet

/-- A step over that does not enter a function is one step. -/
theorem stepOver_reflects_of_not_enters (hp : s.engine.program? = some p) (h : ¬s.engine.Enters) :
    Reflects s s.stepOver (s.engine.steps 1) := by
  rw [Engine.steps_one]
  refine stepOver_reflects_step hp ?_
  intro herr
  exact Nat.le_of_not_lt fun hlt => h ⟨herr, hlt⟩

/-- A step over that enters a function goes to the line after the call. -/
theorem stepOver_reflects_go (hp : s.engine.program? = some p)
    (herr : s.engine.step.error? = none)
    (h : s.engine.stack.length < s.engine.step.state.stack.length) :
    Reflects s s.stepOver (s.engine.go fun e => e.cursor == s.engine.cursor + 1) := by
  have hstep := step_reflects hp
  have hend := Engine.atEnd_of_enters hp h
  obtain ⟨name, header, -, -, -, hpos⟩ := (Engine.move_of_step hp hend herr).entered h
  have hstack : s.engine.step.state.stack = ⟨name, s.engine.cursor⟩ :: s.engine.stack :=
    congrArg Position.stack hpos
  rw [stepOver, Outcome.andThen_of_success (hstep.error?.trans herr), hstep.state, Engine.go,
    Outcome.andThen_of_success herr]
  dsimp only
  rw [hstack]
  dsimp only
  rw [if_pos (by simp)]
  refine ⟨rfl, rfl, ?_⟩
  simp only [Outcome.after_events, outputs_append, hstep.outputs, withEngine, Outcome.map_events]
  rfl

end Session

/-- Does the command move the engine? -/
def Command.moves : Command → Bool
  | run | step | stepOver => true
  | _ => false

namespace Session

variable {s : Session} {p : Program}

/-- Without a program there is nothing to step over. -/
theorem stepOver_of_no_program (hp : s.engine.program? = none) :
    s.stepOver = .done s [.nothingToExecute] := by
  rw [stepOver, step, hp, Outcome.andThen_of_success rfl]
  simp only [Outcome.done_state, Nat.lt_irrefl, if_false]
  split <;> rfl

/-- Without a program, the commands that move the engine tell the log that there is none, and do
nothing. -/
theorem perform_of_no_program {c : Command} (hp : s.engine.program? = none) (hc : c.moves) :
    ∃ event : Event, event.output? = none ∧ s.perform c = .done s [event] := by
  cases c with
  | run => exact ⟨.nothingToRun, rfl, by rw [perform, run, hp]⟩
  | step => exact ⟨.nothingToExecute, rfl, by rw [perform, step, hp]⟩
  | stepOver => exact ⟨.nothingToExecute, rfl, stepOver_of_no_program hp⟩
  | _ => cases hc

/-- A command that moves the engine makes a positive number of steps, and as long as they are not
all made the execution has not come to an ending. -/
theorem perform_reflects_steps {c : Command} (hp : s.engine.program? = some p) (hc : c.moves) :
    ∃ n, Reflects s (s.perform c) (s.engine.steps (n + 1)) ∧
      ∀ j < n, Engine.ending? (s.engine.steps (j + 1)) = none := by
  have hone : ∀ {o : Outcome Session ProgramError}, Reflects s o s.engine.step →
      ∃ n, Reflects s o (s.engine.steps (n + 1)) ∧
        ∀ j < n, Engine.ending? (s.engine.steps (j + 1)) = none := by
    intro o h
    refine ⟨0, by rwa [Engine.steps_one], ?_⟩
    intro j hj
    exact absurd hj (Nat.not_lt_zero j)
  have hgo : ∀ {o : Outcome Session ProgramError} {halt : Engine → Bool},
      Reflects s o (s.engine.go halt) → ∃ n, Reflects s o (s.engine.steps (n + 1)) ∧
        ∀ j < n, Engine.ending? (s.engine.steps (j + 1)) = none := by
    intro o halt h
    obtain ⟨n, hn, -, hbefore⟩ := Engine.go_eq_steps halt hp
    exact ⟨n, hn ▸ h, fun j hj => (hbefore j hj).1⟩
  cases c with
  | run => exact hgo (run_reflects hp)
  | step => exact hone (step_reflects hp)
  | stepOver =>
    by_cases hin : s.engine.Enters
    · exact hgo (stepOver_reflects_go hp hin.1 hin.2)
    · exact hone (Engine.steps_one s.engine ▸ stepOver_reflects_of_not_enters hp hin)
  | _ => cases hc

end Session

end LineDebugger
