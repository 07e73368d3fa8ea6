import LineDebugger.Proofs.Engine.Execution
import LineDebugger.Proofs.Engine.Lockstep

/-!
# Control does not depend on data

No statement of the language decides where to go next, so the position of an engine is all there is
to its control. Two engines in the same position of the same program make the same move, whatever
is in their memories, as long as neither of them fails.

Failing is where the two can part. A step can fail for what the line says, or because its call
cannot be made: such an error is an *error of control*, and the position alone brings it about. Or
it can fail in executing a statement, and then memory has a say in it. `Position.Refusal` lists the
errors of the first kind, and because it mentions nothing but the program, the limit on calls and
the position, two engines that agree on these have the same errors of control.

A statement moves the cursor before it is executed, so a statement that fails has moved all the
same. For two runs to stay together it takes that both of them succeed.

## Main definitions

* `ProgramError.ofControl` — the error is about a line or a call, and not about a value
* `Position.Refusal` — the errors of control that a step from this position ends with
* `Engine.SameControl` — two engines that differ in data only

## Main results

* `Engine.refusal_or_statement_of_error` — a step that fails is refused, or executes a statement
* `Engine.step_control_iff` — a step has an error of control exactly if it is refused
* `Engine.SameControl.steps` — engines that differ in data only go through the same positions
* `Engine.control_independent_of_data` — and have the same errors of control there
-/

namespace LineDebugger

/-! ### Errors of control -/

/-- Does the fault show in reading the line already? -/
def Malformation.ofReading : Malformation → Bool
  | emptyStatement | missingName | unknownOperation _ | notAnInteger _ => true
  | valueOutOfRange | missingValue | unexpectedValue => false

/-- Is the error about a line that cannot be read or a call that cannot be made? The others are
about the execution of a statement. -/
def ProgramError.ofControl : ProgramError → Bool
  | unknownFunction _ _ | depthExceeded _ _ => true
  | malformed _ _ fault => fault.ofReading
  | invalidValue _ _ _ => false

/-- The faults that reading finds are the ones that show in reading. -/
theorem Line.ofReading_of_ofWords {index : Nat} {words : List String} {fault : Malformation}
    (h : ofWords index words = .error fault) : fault.ofReading := by
  rw [ofWords.eq_def] at h
  split at h
  · obtain rfl := Except.error.inj h
    rfl
  · obtain rfl := Except.error.inj h
    rfl
  · split at h
    · cases h
    · split at h
      · cases h
      · split at h
        · obtain rfl := Except.error.inj h
          rfl
        · split at h
          · cases h
          · split at h
            · obtain rfl := Except.error.inj h
              rfl
            · cases h

/-- What goes wrong in reading a line is an error of control, and says so of the line. It quotes the
line, and nothing if there is none. -/
theorem Program.malformed_of_read {p : Program} {index : Nat} {error : ProgramError}
    (h : p.read index = .error error) :
    ∃ fault, error = .malformed index (p.lines[index]?.getD "") fault ∧ fault.ofReading := by
  rw [read, Line.parse] at h
  split at h
  · cases h
  · next fault hwords =>
    exact ⟨fault, (Except.error.inj h).symm, Line.ofReading_of_ofWords hwords⟩

/-- What is wrong with executing a statement is no error of control. -/
theorem Statement.Fault.ofControl {s : Statement} {m : Memory} {error : ProgramError}
    (h : s.Fault m error) : error.ofControl = false := by
  cases h <;> rfl

/-- What goes wrong in executing a statement is no error of control. -/
theorem Interpreter.execute_error?_ofControl {i : Interpreter} {s : Statement}
    {error : ProgramError} (h : (i.execute s).error? = some error) : error.ofControl = false := by
  have hex := i.execution s
  generalize i.execute s = o at h hex
  cases hex with
  | failed hfault =>
    obtain rfl := Option.some.inj h
    exact hfault.ofControl
  | _ => cases h

/-! ### Refusals -/

/-- The errors of control that a step from this position ends with, if so many calls may be under
way at once. -/
inductive Position.Refusal (p : Program) (limit : Nat) (a : Position) : ProgramError → Prop
  /-- The line under the cursor cannot be read. -/
  | unreadable {error : ProgramError} (hr : p.Reads a.stack a.cursor)
      (hl : p.read a.cursor = .error error) : Refusal p limit a error
  /-- The function that is called is not defined. -/
  | unknown {name : String} (hr : p.Reads a.stack a.cursor)
      (hl : p.read a.cursor = .ok (.call name)) (hd : p.functionLine? name = none) :
      Refusal p limit a (.unknownFunction name a.cursor)
  /-- The function that is called is defined, but too many calls are under way. -/
  | tooDeep {name : String} {header : Nat} (hr : p.Reads a.stack a.cursor)
      (hl : p.read a.cursor = .ok (.call name)) (hd : p.functionLine? name = some header)
      (hlimit : limit ≤ a.stack.length) : Refusal p limit a (.depthExceeded limit a.cursor)

/-- An error of control names the line under the cursor. -/
theorem Position.Refusal.line {p : Program} {limit : Nat} {a : Position} {error : ProgramError}
    (h : Refusal p limit a error) : error.line = a.cursor := by
  cases h with
  | unreadable hr hl =>
    obtain ⟨fault, rfl, -⟩ := Program.malformed_of_read hl
    rfl
  | unknown hr hl hd => rfl
  | tooDeep hr hl hd hlimit => rfl

theorem Position.Refusal.ofControl {p : Program} {limit : Nat} {a : Position}
    {error : ProgramError} (h : Refusal p limit a error) : error.ofControl := by
  cases h with
  | unreadable hr hl =>
    obtain ⟨fault, rfl, hfault⟩ := Program.malformed_of_read hl
    exact hfault
  | unknown hr hl hd => rfl
  | tooDeep hr hl hd hlimit => rfl

namespace Engine

variable {e e' : Engine} {p : Program} {error : ProgramError}

/-- A step that is refused leaves everything as it is. -/
theorem step_of_refusal (hp : e.program? = some p)
    (h : Position.Refusal p e.depthLimit e.position error) : e.step = .fail e error := by
  cases h with
  | unreadable hr hl => rw [step_of_reads hp hr, stepLine_of_error hl]
  | unknown hr hl hd => rw [step_of_reads hp hr, stepLine_of_call hl, enter_of_unknown hd]; rfl
  | tooDeep hr hl hd hlimit =>
    rw [step_of_reads hp hr, stepLine_of_call hl, enter_of_limit_le hd hlimit]
    rfl

/-- A step that fails is refused, or it executes a statement. -/
theorem refusal_or_statement_of_error (hp : e.program? = some p)
    (h : e.step.error? = some error) :
    Position.Refusal p e.depthLimit e.position error ∨ ∃ s, e.statement? = some s := by
  obtain ⟨hr, -⟩ := reads_of_step_error hp h
  rw [step_of_reads hp hr] at h
  cases hl : p.read e.cursor with
  | error cause =>
    rw [stepLine_of_error hl] at h
    obtain rfl := Option.some.inj h
    exact .inl (.unreadable hr hl)
  | ok line =>
    cases line with
    | definition name =>
      rw [stepLine_of_definition hl] at h
      cases h
    | statement s => exact .inr ⟨s, (statement?_eq_some_iff hp).2 ⟨hr, hl⟩⟩
    | call name =>
      rw [stepLine_of_call hl] at h
      cases hd : p.functionLine? name with
      | none =>
        rw [enter_of_unknown hd] at h
        obtain rfl := Option.some.inj h
        exact .inl (.unknown hr hl hd)
      | some header =>
        rcases Nat.lt_or_ge e.stack.length e.depthLimit with hlt | hge
        · rw [enter_of_lt_limit hd hlt] at h
          cases h
        · rw [enter_of_limit_le hd hge] at h
          obtain rfl := Option.some.inj h
          exact .inl (.tooDeep hr hl hd hge)

/-- A step has an error of control exactly if it is refused. -/
theorem step_control_iff (hp : e.program? = some p) :
    e.step.error? = some error ∧ error.ofControl ↔
      Position.Refusal p e.depthLimit e.position error := by
  constructor
  · rintro ⟨herr, hcontrol⟩
    rcases refusal_or_statement_of_error hp herr with hrefusal | ⟨s, hs⟩
    · exact hrefusal
    · rw [step_error?_of_statement? hs] at herr
      rw [Interpreter.execute_error?_ofControl herr] at hcontrol
      cases hcontrol
  · intro h
    rw [step_of_refusal hp h]
    exact ⟨rfl, h.ofControl⟩

/-! ### Two runs -/

/-- The engines are in the same position of the same program, with the same limit on calls. Their
interpreters may be any. -/
structure SameControl (e e' : Engine) : Prop where
  program? : e.program? = e'.program?
  depthLimit : e.depthLimit = e'.depthLimit
  position : e.position = e'.position

/-- Whether a program is over can be told from the position. -/
theorem SameControl.atEnd (h : SameControl e e') : e.atEnd = e'.atEnd := by
  have hs : e.stack = e'.stack := congrArg Position.stack h.position
  have hc : e.cursor = e'.cursor := congrArg Position.cursor h.position
  rw [Engine.atEnd, Engine.atEnd, h.program?, hs, hc]

/-- Steps that both succeed lead to the same position. -/
theorem SameControl.step (h : SameControl e e') (herr : e.step.error? = none)
    (herr' : e'.step.error? = none) : SameControl e.step.state e'.step.state := by
  refine ⟨by rw [step_program?, step_program?, h.program?],
    by rw [step_depthLimit, step_depthLimit, h.depthLimit], ?_⟩
  cases hp : e.program? with
  | none =>
    rw [step_of_no_program hp, step_of_no_program (h.program? ▸ hp)]
    exact h.position
  | some p =>
    have hp' : e'.program? = some p := h.program? ▸ hp
    cases hend : e.atEnd with
    | true =>
      rw [step_of_atEnd hp hend, step_of_atEnd hp' (h.atEnd ▸ hend)]
      exact h.position
    | false =>
      have hmove := move_of_step hp hend herr
      have hmove' := move_of_step hp' (h.atEnd ▸ hend) herr'
      rw [← h.position] at hmove'
      exact hmove.deterministic hmove'

/-- Engines that differ in data only go through the same positions. -/
theorem SameControl.steps (h : SameControl e e') {n : Nat} (herr : (e.steps n).error? = none)
    (herr' : (e'.steps n).error? = none) : SameControl (e.steps n).state (e'.steps n).state := by
  induction n with
  | zero => exact h
  | succ n ih =>
    have hn := steps_error?_of_le (Nat.le_succ n) herr
    have hn' := steps_error?_of_le (Nat.le_succ n) herr'
    rw [step_of_steps hn, Outcome.after_error?] at herr
    rw [step_of_steps hn', Outcome.after_error?] at herr'
    rw [step_of_steps hn, step_of_steps hn', Outcome.after_state, Outcome.after_state]
    exact (ih hn hn').step herr herr'

/-- Engines that differ in data only have the same errors of control. -/
theorem SameControl.step_error? (h : SameControl e e') (hcontrol : error.ofControl) :
    e.step.error? = some error ↔ e'.step.error? = some error := by
  cases hp : e.program? with
  | none =>
    rw [step_of_no_program hp, step_of_no_program (h.program? ▸ hp)]
    rfl
  | some p =>
    have hp' : e'.program? = some p := h.program? ▸ hp
    rw [← and_iff_left (a := e.step.error? = some error) hcontrol, step_control_iff hp,
      ← and_iff_left (a := e'.step.error? = some error) hcontrol, step_control_iff hp',
      h.depthLimit, h.position]

/-- **Control is independent of data.** Two engines in the same position of the same program, with
the same limit on calls and with anything in their memories, are in the same position again after
any number of steps that all succeed in both. The next step then has an error of control in one of
them exactly if it has the same error in the other. -/
theorem control_independent_of_data (h : SameControl e e') (n : Nat)
    (herr : (e.steps n).error? = none) (herr' : (e'.steps n).error? = none) :
    (e.steps n).state.stack = (e'.steps n).state.stack ∧
      (e.steps n).state.cursor = (e'.steps n).state.cursor ∧
        ∀ error, error.ofControl →
          ((e.steps n).state.step.error? = some error ↔
            (e'.steps n).state.step.error? = some error) := by
  have hsame := h.steps herr herr'
  refine ⟨congrArg Position.stack hsame.position, congrArg Position.cursor hsame.position, ?_⟩
  intro error hcontrol
  exact hsame.step_error? hcontrol

/-- A function is called that calls another one, and no line defines that. -/
def callOfUndefined : Engine :=
  ((Engine.initial 4).load "set a 1\ncall f\ndef f\n    call g").state

/-- The same in other circumstances: a variable more, and one that was missing. -/
def callOfUndefinedElsewhere : Engine :=
  { callOfUndefined with
    interpreter :=
      ((Interpreter.initial.execute ⟨.set, "b", some 9, 0⟩).state.execute
        ⟨.print, "c", none, 0⟩).state }

/-- A statement, a call and a header later, both are on the line that calls the other function. -/
theorem callOfUndefined_fails_alike :
    let e := callOfUndefined
    let e' := callOfUndefinedElsewhere
    SameControl e e' ∧ e.succeeded ∧ ¬e'.succeeded ∧ (e.steps 3).error? = none ∧
      (e'.steps 3).error? = none ∧ (e'.steps 3).state.cursor = 3 ∧
        (e'.steps 3).state.step.error? = some (.unknownFunction "g" 3) := by
  intro e e'
  have hsame : SameControl e e' := ⟨rfl, rfl, rfl⟩
  have herr : (e.steps 3).error? = none := by decide +kernel
  have herr' : (e'.steps 3).error? = none := by decide +kernel
  obtain ⟨-, hcursor, hfails⟩ := control_independent_of_data hsame 3 herr herr'
  refine ⟨hsame, rfl, by decide +kernel, herr, herr', hcursor.symm.trans (by decide +kernel), ?_⟩
  exact (hfails _ rfl).1 (by decide +kernel)

end Engine

end LineDebugger
