import LineDebugger.Proofs.Session.Inputs
import LineDebugger.Proofs.Session.StartingOver

/-!
# Inspection leaves no trace

A user who lists the variables, the calls or the breakpoints, who types what is no command, or who
forgets the number of a breakpoint, does nothing to the program that is being debugged. Such a line
is called *passive* here, and the session after it is the session before it.

That is not as plain as it looks. Every line that is dispatched, whatever it says, is followed by
the question whether the session has to start over, and the question is answered by looking at the
engine alone. So the law rests on what is known of an engine between commands: the flag is up, so
nobody is charged for a variable that was missing before; and the program is over only if it has no
lines, in which case starting over leads to where the engine is.

From the law for one line follows the one for many. Passive lines can be put into a history, or
taken out of it, wherever no program is awaited, and the answers to all other inputs stay the same.

## Main definitions

* `Command.NamesNoLine` — a breakpoint command without exactly one line number
* `Command.Passive` — a line that asks for nothing to be done
* `Session.ExtrasPassive` — the inputs marked as extra are passive lines where none is awaited

## Main results

* `Command.parse_eq_error_iff` — what a line is that cannot be read as a command
* `Session.Reachable.execute_state` — a line that makes no steps does not start the session over
* `Session.Reachable.answersToOthers_eq` — passive lines make no difference to other answers
* `Session.Reachable.inspection_leaves_no_trace` — all of this in one
-/

namespace LineDebugger

namespace Command

variable {text : String}

/-- The first two words are those of a command about one breakpoint, and what follows them is not
exactly one line number. -/
def NamesNoLine (text : String) : Prop :=
  ∃ verb words, (verb = "add" ∨ verb = "remove") ∧ Text.words text = verb :: "break" :: words ∧
    lineNumber? words = none

theorem namesNoLine_iff : NamesNoLine text ↔ LacksLine (Text.words text) := by
  constructor
  · rintro ⟨verb, words, rfl | rfl, hwords, hno⟩
    · exact hwords ▸ .addBreakpoint (lineNumber?_eq_none_iff.1 hno)
    · exact hwords ▸ .removeBreakpoint (lineNumber?_eq_none_iff.1 hno)
  · intro h
    generalize hwords : Text.words text = ws at h
    cases h with
    | addBreakpoint h => exact ⟨"add", _, .inl rfl, hwords, lineNumber?_eq_none_iff.2 h⟩
    | removeBreakpoint h => exact ⟨"remove", _, .inr rfl, hwords, lineNumber?_eq_none_iff.2 h⟩

/-- What cannot be read as a command is a breakpoint command without a line number. -/
theorem parse_eq_error_iff {error : CommandError} :
    parse text = .error error ↔ NamesNoLine text ∧ error = .invalidBreakpoint text := by
  rw [namesNoLine_iff, parse_eq_invalid_iff]

/-- The line asks only to list something, or cannot be carried out at all. -/
inductive Passive : String → Prop
  | empty : Passive ""
  | printMemory : Passive "print mem"
  | printTrace : Passive "print trace"
  | printBreakpoints : Passive "print breaks"
  /-- The line is no command. -/
  | unknown {text : String} (h : parse text = .ok none) : Passive text
  /-- The line is a breakpoint command without a line number. -/
  | noLine {text : String} (h : NamesNoLine text) : Passive text

/-- A passive line makes no steps. -/
theorem Passive.moves {c : Command} (h : Passive text) (hparse : parse text = .ok (some c)) :
    c.moves = false := by
  have hread : ∀ c' : Command, parse text = .ok (some c') → c'.moves = false →
      c.moves = false := by
    intro c' hparse' hstill
    rw [hparse'] at hparse
    rwa [← Option.some.inj (Except.ok.inj hparse)]
  cases h with
  | empty => exact absurd rfl (Session.ne_empty_of_parse hparse)
  | printMemory => exact hread .printMemory rfl rfl
  | printTrace => exact hread .printTrace rfl rfl
  | printBreakpoints => exact hread .printBreakpoints rfl rfl
  | unknown hno =>
    rw [hno] at hparse
    cases hparse
  | noLine hno =>
    rw [parse_eq_error_iff.2 ⟨hno, rfl⟩] at hparse
    cases hparse

/-- The breakpoints after a command about them, if it is one. -/
def breakpoints? (b : Breakpoints) : Command → Option Breakpoints
  | addBreakpoint line => some (b.insert line)
  | removeBreakpoint line => some (b.erase line)
  | clearBreakpoints => some .empty
  | _ => none

end Command

/-- An engine at the start without variables starts over as it is. -/
theorem Engine.restarted_eq_self {e : Engine} (hs : e.stack = []) (hc : e.cursor = 0)
    (hi : e.interpreter = .initial) : e.restarted = e := by
  rw [restarted, ← hs, ← hc, ← hi]

namespace Session

open Command (Passive NamesNoLine)

variable {limit : Nat} {s : Session} {line : String}

/-! ### One line -/

/-- Between commands, a program is over only at its start. -/
theorem Reachable.restarted_of_atEnd (h : Reachable limit s) (hend : s.engine.atEnd) :
    s.engine.restarted = s.engine := by
  obtain ⟨p, hp, hsize⟩ := h.settled.empty_of_atEnd hend
  have hs : s.engine.stack = [] := ((Engine.atEnd_iff hp).1 hend).2
  have hc : s.engine.cursor = 0 := by
    have hle : s.engine.cursor ≤ p.size := ((Engine.placed_iff hp).1 h.placed).cursor_le
    omega
  refine Engine.restarted_eq_self hs hc ?_
  calc s.engine.interpreter
      = ⟨s.engine.interpreter.memory, s.engine.succeeded⟩ := rfl
    _ = .initial := by rw [h.settled.memory_at_start hs hc, h.settled.succeeded]; rfl

/-- A line that makes no steps leaves the session as the command does: if the session starts over,
it is at the start already. -/
theorem Reachable.execute_state (h : Reachable limit s) (ha : s.awaitingSource = false)
    (hline : line ≠ "")
    (hstill : ∀ c, Command.parse line = .ok (some c) → c.moves = false) :
    (s.execute line).state = (s.dispatch line).state := by
  by_cases hends : endsRun (s.dispatch line)
  · have hresets : s.resets line := by simp [resets, hline, ha, hends]
    have hover : s.engine.atEnd := by
      rcases moves_of_resets h.settled hresets with hover | ⟨c, p, hparse, hmoves, -⟩
      · exact hover
      · rw [hstill c hparse] at hmoves
        cases hmoves
    have hengine : (s.dispatch line).state.engine = s.engine := by
      refine (dispatch_of_still ?_).1
      intro c hparse hmoves
      rw [hstill c hparse] at hmoves
      cases hmoves
    rw [execute_of_ne_empty hline ha, settle, if_pos hends]
    show { (s.dispatch line).state with engine := (s.dispatch line).state.engine.restarted } = _
    rw [hengine, h.restarted_of_atEnd hover, ← hengine]
  · rw [execute_of_ne_empty hline ha, settle, if_neg hends]

/-- What a passive line amounts to: an error if it is a breakpoint command without a line number,
and else some events, but no change. -/
theorem dispatch_of_passive (s : Session) (h : Passive line) :
    NamesNoLine line ∧ s.dispatch line = .fail s (.invalidBreakpoint line) ∨
      ¬NamesNoLine line ∧ ∃ events, s.dispatch line = .done s events := by
  have hread : ∀ c?, Command.parse line = .ok c? → ¬NamesNoLine line := by
    intro c? hparse hno
    rw [Command.parse_eq_error_iff.2 ⟨hno, rfl⟩] at hparse
    cases hparse
  cases h with
  | empty => exact .inr ⟨hread none rfl, _, rfl⟩
  | printMemory => exact .inr ⟨hread (some .printMemory) rfl, _, rfl⟩
  | printTrace => exact .inr ⟨hread (some .printTrace) rfl, _, rfl⟩
  | printBreakpoints => exact .inr ⟨hread (some .printBreakpoints) rfl, _, rfl⟩
  | unknown hunknown =>
    refine .inr ⟨hread none hunknown, [.commandIgnored line], ?_⟩
    rw [dispatch, hunknown]
  | noLine hno =>
    refine .inl ⟨hno, ?_⟩
    rw [dispatch, Command.parse_eq_error_iff.2 ⟨hno, rfl⟩]

/-- A passive line leaves the session as it is. It is an error exactly if it is a breakpoint command
without a line number. -/
theorem Reachable.execute_of_passive (h : Reachable limit s) (ha : s.awaitingSource = false)
    (hpassive : Passive line) :
    (s.execute line).state = s ∧
      (NamesNoLine line → (s.execute line).error? = some (.invalidBreakpoint line)) ∧
        (¬NamesNoLine line → (s.execute line).error? = none) := by
  by_cases hline : line = ""
  · subst hline
    refine ⟨rfl, fun hno => ?_, fun _ => rfl⟩
    cases Command.parse_eq_error_iff.2 ⟨hno, rfl⟩
  · have hstate := h.execute_state ha hline fun c hparse => hpassive.moves hparse
    have herr : (s.execute line).error? = (s.dispatch line).error? := by
      rw [execute_of_ne_empty hline ha, settle_error?]
    rw [hstate, herr]
    rcases dispatch_of_passive s hpassive with ⟨hno, heq⟩ | ⟨hno, events, heq⟩
    · rw [heq]
      exact ⟨rfl, fun _ => rfl, fun hread => absurd hno hread⟩
    · rw [heq]
      exact ⟨rfl, fun hread => absurd hread hno, fun _ => rfl⟩

/-- A command about breakpoints changes nothing but the breakpoints. -/
theorem Reachable.execute_of_breakpoints (h : Reachable limit s) (ha : s.awaitingSource = false)
    {c : Command} {b : Breakpoints} (hparse : Command.parse line = .ok (some c))
    (hb : c.breakpoints? s.breakpoints = some b) :
    (s.execute line).state = { s with breakpoints := b } ∧ (s.execute line).error? = none ∧
      outputs (s.execute line).events = [] := by
  have hstill : ∀ c', Command.parse line = .ok (some c') → c'.moves = false := by
    intro c' hparse'
    rw [hparse] at hparse'
    obtain rfl := Option.some.inj (Except.ok.inj hparse')
    cases c with
    | run | step | stepOver => cases hb
    | _ => rfl
  rw [h.execute_state ha (ne_empty_of_parse hparse) hstill, execute_of_parse ha hparse,
    settle_error?, outputs_settle, dispatch_of_parse hparse]
  cases c with
  | addBreakpoint n => obtain rfl := Option.some.inj hb; exact ⟨rfl, rfl, rfl⟩
  | removeBreakpoint n => obtain rfl := Option.some.inj hb; exact ⟨rfl, rfl, rfl⟩
  | clearBreakpoints => obtain rfl := Option.some.inj hb; exact ⟨rfl, rfl, rfl⟩
  | _ => cases hb

/-! ### A history with extra lines -/

/-- The inputs that are not marked as extra. -/
def others (inputs : List (Input × Bool)) : List Input :=
  inputs.filterMap fun (input, extra) => if extra then none else some input

/-- The answers to the inputs that are not marked as extra, while all of them are taken. -/
def answersToOthers (s : Session) : List (Input × Bool) → List (Outcome Session CommandError)
  | [] => []
  | (input, true) :: inputs => (s.take input).state.answersToOthers inputs
  | (input, false) :: inputs => s.take input :: (s.take input).state.answersToOthers inputs

/-- Every input that is marked as extra is a passive line, and no program is awaited when it
comes. -/
def ExtrasPassive (s : Session) : List (Input × Bool) → Prop
  | [] => True
  | (input, extra) :: inputs =>
    (extra → s.awaitingSource = false ∧ ∃ line, input = .line line ∧ Passive line) ∧
      (s.take input).state.ExtrasPassive inputs

/-- Passive lines make no difference to the answers to other inputs. -/
theorem Reachable.answersToOthers_eq {inputs : List (Input × Bool)} (h : Reachable limit s)
    (hextra : s.ExtrasPassive inputs) : s.answersToOthers inputs = s.answers (others inputs) := by
  induction inputs generalizing s with
  | nil => rfl
  | cons entry inputs ih =>
    obtain ⟨input, extra⟩ := entry
    obtain ⟨hpassive, hrest⟩ := hextra
    have hothers := ih (h.take input) hrest
    cases extra with
    | false =>
      show s.take input :: _ = s.take input :: _
      rw [hothers]
      rfl
    | true =>
      obtain ⟨ha, line, rfl, hline⟩ := hpassive rfl
      have hstays : (s.take (.line line)).state = s := (h.execute_of_passive ha hline).1
      show (s.take (.line line)).state.answersToOthers inputs = s.answers (others inputs)
      rw [hothers, hstays]

/-- **Inspection leaves no trace.** While no program is awaited, a line that only asks to list
something, that is no command or is empty, or that is a breakpoint command without a line number,
leaves the session as it is, and only the last of them is an error. A command about breakpoints
changes the breakpoints and nothing else. And from any history lines of the first kind can be taken
out where no program is awaited, or be put in, with the same answers to all other inputs. -/
theorem Reachable.inspection_leaves_no_trace (h : Reachable limit s) :
    (s.awaitingSource = false → ∀ line, Passive line →
      (s.execute line).state = s ∧
        (NamesNoLine line → (s.execute line).error? = some (.invalidBreakpoint line)) ∧
          (¬NamesNoLine line → (s.execute line).error? = none)) ∧
    (s.awaitingSource = false → ∀ line c b, Command.parse line = .ok (some c) →
      c.breakpoints? s.breakpoints = some b →
        (s.execute line).state = { s with breakpoints := b } ∧ (s.execute line).error? = none ∧
          outputs (s.execute line).events = []) ∧
    ∀ inputs, s.ExtrasPassive inputs → s.answersToOthers inputs = s.answers (others inputs) := by
  refine ⟨?_, ?_, fun inputs hextra => h.answersToOthers_eq hextra⟩
  · intro ha line hpassive
    exact h.execute_of_passive ha hpassive
  · intro ha line c b hparse hb
    exact h.execute_of_breakpoints ha hparse hb

/-- A program has entered a function, with the cursor on its header. -/
def pausedInCall : Session :=
  ((initial 1000).load "def f\n    set a 1\ncall f").state.after ["step", "step"]

/-- Two steps, with lines before, between and after them that ask for nothing to be done. -/
def inspectedSteps : List (Input × Bool) :=
  [(.line "print trace", true), (.line "add break", true), (.line "step", false), (.line "", true),
    (.line "step", false), (.line "print mem", true), (.line "remove break 1 2", true)]

theorem pausedInCall_inspected :
    Reachable 1000 pausedInCall ∧ pausedInCall.awaitingSource = false ∧
      pausedInCall.engine.stack = [⟨"f", 2⟩] ∧
      (Passive "add break" ∧ NamesNoLine "add break" ∧
        (pausedInCall.execute "add break").state = pausedInCall ∧
          (pausedInCall.execute "add break").error? = some (.invalidBreakpoint "add break")) ∧
      (pausedInCall.execute "add break 1").state =
          { pausedInCall with breakpoints := Breakpoints.empty.insert 1 } ∧
      pausedInCall.ExtrasPassive inspectedSteps ∧
        pausedInCall.answersToOthers inspectedSteps =
          pausedInCall.answers [.line "step", .line "step"] := by
  have h : Reachable 1000 pausedInCall :=
    .execute "step" (.execute "step" (.load _ .initial))
  have hadd : NamesNoLine "add break" := ⟨"add", [], .inl rfl, by decide +kernel, rfl⟩
  have hremove : NamesNoLine "remove break 1 2" :=
    ⟨"remove", ["1", "2"], .inr rfl, by decide +kernel, rfl⟩
  have hextra : pausedInCall.ExtrasPassive inspectedSteps := by
    refine ⟨fun _ => ⟨rfl, _, rfl, .printTrace⟩, fun _ => ⟨rfl, _, rfl, .noLine hadd⟩, ?_⟩
    refine ⟨fun hno => absurd hno Bool.false_ne_true, fun _ => ⟨rfl, _, rfl, .empty⟩, ?_⟩
    refine ⟨fun hno => absurd hno Bool.false_ne_true, fun _ => ⟨rfl, _, rfl, .printMemory⟩, ?_⟩
    exact ⟨fun _ => ⟨rfl, _, rfl, .noLine hremove⟩, trivial⟩
  obtain ⟨hpassive, hbreakpoints, hhistory⟩ := h.inspection_leaves_no_trace
  obtain ⟨hstate, herr, -⟩ := hpassive rfl _ (.noLine hadd)
  have hparse : Command.parse "add break 1" = .ok (some (.addBreakpoint 1)) := by decide +kernel
  exact ⟨h, rfl, rfl, ⟨.noLine hadd, hadd, hstate, herr hadd⟩,
    (hbreakpoints rfl _ _ _ hparse rfl).1, hextra, hhistory _ hextra⟩

end Session

end LineDebugger
