import LineDebugger.Proofs.Engine.Region
import LineDebugger.Proofs.Interpreter

/-!
# Steps that execute a statement

Most steps are about control: they pass a header, jump over a definition, enter a function or
return from one. They put nothing out, and they do not touch the interpreter. All else that happens
to variables and to the output happens in the steps that execute a statement, and which statement
that is can be told before the step is made.

So `Engine.statement?` looks at the program, the calls under way and the cursor, and makes no step.
If it finds a statement, the next step is its execution; if it finds none, the interpreter stays as
it is.

## Main definitions

* `Program.statement?` — the statement that a line reads as
* `Engine.statement?` — the statement that the next step executes

## Main results

* `Engine.step_of_statement?` — if there is one, the step executes it
* `Engine.step_of_no_statement` — if not, the interpreter stays as it is, and nothing is put out
* `Engine.line_of_statement?` — the statement knows the line it was read from
-/

namespace LineDebugger

/-- The statement, if the line is one. -/
def Line.statement? : Line → Option Statement
  | statement s => some s
  | _ => none

theorem Line.statement?_eq_some_iff {line : Line} {s : Statement} :
    line.statement? = some s ↔ line = .statement s := by
  cases line <;> simp [statement?]

/-- A statement is read with the line that it stands on. -/
theorem Line.line_of_ofWords {index : Nat} {words : List String} {s : Statement}
    (h : ofWords index words = .ok (.statement s)) : s.line = index := by
  rw [ofWords.eq_def] at h
  split at h
  · cases h
  · cases h
  · split at h
    · cases h
    · split at h
      · cases h
      · split at h
        · cases h
        · split at h
          · obtain rfl := Line.statement.inj (Except.ok.inj h)
            rfl
          · split at h
            · cases h
            · obtain rfl := Line.statement.inj (Except.ok.inj h)
              rfl

namespace Program

variable {p : Program} {index : Nat} {s : Statement}

/-- The statement that the line at an index reads as, if it reads as one. -/
def statement? (p : Program) (index : Nat) : Option Statement :=
  (p.read index).toOption.bind Line.statement?

theorem statement?_eq_some_iff :
    p.statement? index = some s ↔ p.read index = .ok (.statement s) := by
  rw [statement?]
  cases p.read index with
  | error error => simp [Except.toOption]
  | ok line => simp [Except.toOption, Line.statement?_eq_some_iff]

/-- A statement is read with the line that it stands on. -/
theorem line_of_read (h : p.read index = .ok (.statement s)) : s.line = index := by
  rw [read, Line.parse] at h
  split at h
  · next line hwords =>
    obtain rfl := Except.ok.inj h
    exact Line.line_of_ofWords hwords
  · cases h

instance (p : Program) (stack : List Frame) (index : Nat) : Decidable (p.Reads stack index) :=
  match stack with
  | [] => inferInstanceAs (Decidable (index < p.size))
  | frame :: _ =>
    inferInstanceAs (Decidable (p.functionLine? frame.function ≠ some index ∧ p.isBody index))

end Program

namespace Engine

variable {e : Engine} {p : Program} {s : Statement}

/-- The statement that the next step executes, if it executes one. -/
def statement? (e : Engine) : Option Statement :=
  e.program?.bind fun p => if p.Reads e.stack e.cursor then p.statement? e.cursor else none

theorem statement?_eq_some_iff (hp : e.program? = some p) :
    e.statement? = some s ↔ p.Reads e.stack e.cursor ∧ p.read e.cursor = .ok (.statement s) := by
  rw [statement?, hp, Option.bind_some, Option.ite_none_right_eq_some,
    Program.statement?_eq_some_iff]

theorem exists_program_of_statement? (h : e.statement? = some s) :
    ∃ p, e.program? = some p ∧ p.Reads e.stack e.cursor ∧
      p.read e.cursor = .ok (.statement s) := by
  obtain ⟨p, hp, -⟩ := Option.bind_eq_some_iff.1 h
  exact ⟨p, hp, (statement?_eq_some_iff hp).1 h⟩

/-- If there is a statement, the step executes it. -/
theorem step_of_statement? (h : e.statement? = some s) : e.step = e.runStatement s := by
  obtain ⟨p, hp, hr, hl⟩ := exists_program_of_statement? h
  rw [step_of_reads hp hr, stepLine_of_statement hl]

/-- The statement knows the line it was read from. -/
theorem line_of_statement? (h : e.statement? = some s) : s.line = e.cursor := by
  obtain ⟨p, -, -, hl⟩ := exists_program_of_statement? h
  exact Program.line_of_read hl

/-- If there is no statement, the step leaves the interpreter as it is and puts nothing out. -/
theorem step_of_no_statement (h : e.statement? = none) :
    e.step.state.interpreter = e.interpreter ∧ outputs e.step.events = [] := by
  cases hp : e.program? with
  | none => rw [step_of_no_program hp]; exact ⟨rfl, rfl⟩
  | some p =>
    cases hend : e.atEnd with
    | true => rw [step_of_atEnd hp hend]; exact ⟨rfl, rfl⟩
    | false =>
      rcases step_kinds hp hend with ⟨_, _, events, -, hout, hs⟩ | ⟨hr, ⟨s, hl, -⟩ | ⟨_, hs⟩⟩
      · rw [hs]
        exact ⟨rfl, hout⟩
      · rw [(statement?_eq_some_iff hp).2 ⟨hr, hl⟩] at h
        cases h
      · rw [hs]
        exact ⟨rfl, rfl⟩

/-- A statement moves the cursor to the next line, and the rest is done to the interpreter. -/
theorem step_state_of_statement? (h : e.statement? = some s) :
    e.step.state =
      { e with cursor := e.cursor + 1, interpreter := (e.interpreter.execute s).state } := by
  rw [step_of_statement? h]
  rfl

theorem step_events_of_statement? (h : e.statement? = some s) :
    e.step.events = (e.interpreter.execute s).events := by
  rw [step_of_statement? h]
  rfl

theorem step_error?_of_statement? (h : e.statement? = some s) :
    e.step.error? = (e.interpreter.execute s).error? := by
  rw [step_of_statement? h]
  rfl

end Engine

end LineDebugger
