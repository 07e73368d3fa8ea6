import LineDebugger.Proofs.Engine.Control

/-!
# A step that fails changes nothing

There are many ways to fail: a line that cannot be read, a call that cannot be made, a statement
with the wrong operand or with a number that cannot be stored. They come up in different places,
some of them after variables have been looked at and some after the cursor has moved on. Yet a step
that fails has done nothing to the interpreter, the calls under way and the program, it has put
nothing out, and its error names the line that the cursor was on.

There are two kinds, and the cursor tells them apart. An error of control leaves the engine exactly
where it was, so the same step fails in the same way as often as it is made. An error in executing a
statement comes after the cursor has moved to the next line.

## Main results

* `Engine.step_of_failure` — the two kinds of steps that fail
* `Engine.failure_is_atomic` — what a step that fails leaves behind
-/

namespace LineDebugger

namespace Engine

variable {e : Engine} {error : ProgramError}

/-- Only with a program there is anything to fail. -/
theorem exists_program_of_error (h : e.step.error? = some error) : ∃ p, e.program? = some p := by
  cases hp : e.program? with
  | none =>
    rw [step_of_no_program hp] at h
    cases h
  | some p => exact ⟨p, rfl⟩

/-- A step that fails is refused, or it executes a statement that is at fault. -/
theorem step_of_failure (h : e.step.error? = some error) :
    (error.ofControl ∧ error.line = e.cursor ∧ e.step = .fail e error) ∨
      (error.ofControl = false ∧ error.line = e.cursor ∧ ∃ s,
        e.step = (Outcome.fail { e with cursor := e.cursor + 1 } error).after [.executing s]) := by
  obtain ⟨p, hp⟩ := exists_program_of_error h
  rcases refusal_or_statement_of_error hp h with hrefusal | ⟨s, hs⟩
  · exact .inl ⟨hrefusal.ofControl, hrefusal.line, step_of_refusal hp hrefusal⟩
  · have hex := e.interpreter.execution s
    rw [step_of_statement? hs, runStatement] at h ⊢
    generalize e.interpreter.execute s = o at h hex ⊢
    cases hex with
    | failed hfault =>
      obtain rfl := Option.some.inj h
      exact .inr ⟨hfault.ofControl, hfault.line.trans (line_of_statement? hs), s, rfl⟩
    | _ => cases h

/-- **A failing step is atomic.** Whatever a step fails for, it has put nothing out, and its error
names the line under the cursor. An error of control leaves the engine as it was, so the step fails
in the same way when it is made again. Any other error comes from executing a statement, and leaves
the engine as it was but for the cursor, which is one line further. -/
theorem failure_is_atomic (h : e.step.error? = some error) :
    error.line = e.cursor ∧ outputs e.step.events = [] ∧
      e.step.state =
          { e with cursor := if error.ofControl then e.cursor else e.cursor + 1 } ∧
        (error.ofControl → e.step.state.step = e.step) := by
  rcases step_of_failure h with ⟨hcontrol, hline, hstep⟩ | ⟨hdata, hline, s, hstep⟩
  · rw [hcontrol, hstep]
    exact ⟨hline, rfl, rfl, fun _ => hstep⟩
  · rw [hdata, hstep]
    exact ⟨hline, rfl, rfl, fun hcontrol => absurd hcontrol Bool.false_ne_true⟩

/-- A function takes as much off a variable as it has. -/
def takesAll : Engine := ((Engine.initial 4).load "set a 1\ncall f\ndef f\n    sub a 1").state

/-- A statement, a call and a header later, nothing would be left of the variable. -/
theorem takesAll_fails :
    let e := (takesAll.steps 3).state
    e.stack = [⟨"f", 1⟩] ∧ e.cursor = 3 ∧ e.step.error? = some (.invalidValue "a" 0 3) ∧
      outputs e.step.events = [] ∧ e.step.state = { e with cursor := 4 } := by
  intro e
  have herr : e.step.error? = some (.invalidValue "a" 0 3) := by decide +kernel
  obtain ⟨-, hout, hstate, -⟩ := failure_is_atomic herr
  exact ⟨by decide +kernel, by decide +kernel, herr, hout, hstate⟩

end Engine

end LineDebugger
