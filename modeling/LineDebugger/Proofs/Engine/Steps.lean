import LineDebugger.Engine.Advance
import LineDebugger.Proofs.Engine.Step

/-!
# Many steps

`Engine.steps n` is `n` steps in a row, cut short by the first error. It is the canonical execution
of a program, to which the other ways of moving an engine are compared: advancing to a stop is
some number of steps, and the number is the least one at which there is a reason to stop.

A reason to stop is either that the execution has come to an *ending* — an error, a variable that
was missing, the end of the program — or the condition of whoever advances.

## Main definitions

* `Ending` — how an execution ends
* `Engine.ended?`, `Engine.ending?` — the ending that a state shows, or an outcome, if any
* `Engine.steps` — so many steps in a row
* `Engine.go` — stepping at least once, and then to a stop

## Main results

* `Engine.advance_eq_steps`, `Engine.go_eq_steps` — advancing is the least number of steps to a stop
* `Engine.go_eq_steps_of_first` — and the least number is only one
* `Engine.steps_add` — so many steps, and then so many more
* `Engine.steps_invariant` — what every step keeps, many steps keep
* `Engine.remaining_steps_add_le` — steps that do something make the bound on what is left smaller
-/

namespace LineDebugger

/-! ### One outcome after another -/

namespace Outcome

variable {σ ε : Type}

theorem quiet_andThen (s : σ) (next : σ → Outcome σ ε) : (quiet s).andThen next = next s := rfl

theorem andThen_quiet (o : Outcome σ ε) : o.andThen quiet = o := by
  cases h : o.error? with
  | none => rw [andThen_of_success h]; simp [after, quiet, ← h]
  | some error => exact andThen_of_error? h _

theorem andThen_assoc (o : Outcome σ ε) (f g : σ → Outcome σ ε) :
    (o.andThen f).andThen g = o.andThen fun s => (f s).andThen g := by
  cases h : o.error? with
  | some error => simp only [andThen_of_error? h]
  | none =>
    simp only [andThen_of_success h]
    cases hf : (f o.state).error? with
    | some error => rw [andThen_of_error? hf, andThen_of_error? (by rw [after_error?, hf])]
    | none =>
      rw [andThen_of_success hf, andThen_of_success (by rw [after_error?, hf]), after_after]
      rfl

end Outcome

/-! ### Endings -/

/-- How the execution of a program ends. -/
inductive Ending
  /-- The program was carried out to its last line. -/
  | finished
  /-- A statement named a variable that is not in memory. -/
  | missingVariable
  /-- A line could not be read or carried out. -/
  | failed (error : ProgramError)
deriving DecidableEq

namespace Engine

variable {e : Engine} {p : Program} {halt : Engine → Bool}

/-- The ending that the state of an engine shows, if any. -/
def ended? (e : Engine) : Option Ending :=
  if !e.succeeded then some .missingVariable
  else if e.atEnd then some .finished
  else none

theorem ended?_eq_none_iff : e.ended? = none ↔ e.succeeded ∧ e.atEnd = false := by
  rw [ended?]
  by_cases hok : e.succeeded <;> by_cases hend : e.atEnd <;> simp [hok, hend]

theorem isSome_ended? (e : Engine) : e.ended?.isSome = (e.atEnd || !e.succeeded) := by
  rw [ended?]
  by_cases hok : e.succeeded <;> by_cases hend : e.atEnd <;> simp [hok, hend]

/-- The ending that an execution has come to with this outcome, if it has come to one. -/
def ending? (o : Outcome Engine ProgramError) : Option Ending :=
  match o.error? with
  | some error => some (.failed error)
  | none => o.state.ended?

theorem ending?_of_error? {o : Outcome Engine ProgramError} {error : ProgramError}
    (h : o.error? = some error) : ending? o = some (.failed error) := by
  rw [ending?, h]

/-- An execution goes on as long as nothing failed, no variable was missing and there is more. -/
theorem ending?_eq_none_iff {o : Outcome Engine ProgramError} :
    ending? o = none ↔ o.error? = none ∧ o.state.succeeded ∧ o.state.atEnd = false := by
  rw [ending?]
  cases o.error? with
  | some error => simp
  | none => simp [ended?_eq_none_iff]

/-- What came before makes no difference to the ending. -/
@[simp] theorem ending?_after (es : List Event) (o : Outcome Engine ProgramError) :
    ending? (o.after es) = ending? o := rfl

/-! ### Counting steps -/

/-- So many steps in a row. An error ends them early. -/
def steps : Nat → Engine → Outcome Engine ProgramError
  | 0, e => .quiet e
  | n + 1, e => e.step.andThen (steps n)

@[simp] theorem steps_zero (e : Engine) : e.steps 0 = .quiet e := rfl

theorem steps_succ (n : Nat) (e : Engine) : e.steps (n + 1) = e.step.andThen (steps n) := rfl

theorem steps_one (e : Engine) : e.steps 1 = e.step := Outcome.andThen_quiet _

theorem steps_add (m n : Nat) (e : Engine) : e.steps (m + n) = (e.steps m).andThen (steps n) := by
  induction m generalizing e with
  | zero => rw [Nat.zero_add, steps_zero, Outcome.quiet_andThen]
  | succ m ih =>
    rw [Nat.add_right_comm, steps_succ, steps_succ, Outcome.andThen_assoc]
    exact congrArg _ (funext fun next => ih next)

/-- As long as nothing failed, more steps go on from where the first ones led. -/
theorem steps_add_of_success {m : Nat} (h : (e.steps m).error? = none) (n : Nat) :
    e.steps (m + n) = ((e.steps m).state.steps n).after (e.steps m).events := by
  rw [steps_add, Outcome.andThen_of_success h]

theorem step_of_steps {n : Nat} (h : (e.steps n).error? = none) :
    e.steps (n + 1) = (e.steps n).state.step.after (e.steps n).events := by
  rw [steps_add_of_success h, steps_one]

/-- If the first steps failed, so did all of them. -/
theorem steps_add_of_error {m : Nat} {error : ProgramError} (h : (e.steps m).error? = some error)
    (n : Nat) : e.steps (m + n) = e.steps m := by
  rw [steps_add, Outcome.andThen_of_error? h]

theorem steps_error?_of_le {m n : Nat} (hmn : m ≤ n) (h : (e.steps n).error? = none) :
    (e.steps m).error? = none := by
  obtain ⟨d, rfl⟩ := Nat.exists_eq_add_of_le hmn
  cases hm : (e.steps m).error? with
  | none => rfl
  | some error => rw [steps_add_of_error hm, hm] at h; exact h

/-- What every step keeps, many steps keep, also when they fail. -/
theorem steps_invariant {P : Engine → Prop} (hstep : ∀ e, P e → P e.step.state) (he : P e)
    (n : Nat) : P (e.steps n).state := by
  induction n with
  | zero => exact he
  | succ n ih =>
    cases h : (e.steps n).error? with
    | some error => rw [steps_add_of_error h]; exact ih
    | none => rw [step_of_steps h]; exact hstep _ ih

/-- As long as the execution goes on, nothing has failed. -/
theorem steps_error?_of_going {n : Nat} (hgoing : ∀ j < n, ending? (e.steps (j + 1)) = none) :
    (e.steps n).error? = none := by
  cases n with
  | zero => rfl
  | succ n => exact (ending?_eq_none_iff.1 (hgoing n (Nat.lt_succ_self n))).1

@[simp] theorem steps_program? (n : Nat) (e : Engine) :
    (e.steps n).state.program? = e.program? := by
  refine steps_invariant (P := fun e' => e'.program? = e.program?) ?_ rfl n
  intro e' h
  rw [step_program?, h]

@[simp] theorem steps_depthLimit (n : Nat) (e : Engine) :
    (e.steps n).state.depthLimit = e.depthLimit := by
  refine steps_invariant (P := fun e' => e'.depthLimit = e.depthLimit) ?_ rfl n
  intro e' h
  rw [step_depthLimit, h]

/-- Steps that all do something and succeed leave less to do, by one at least for each of them. -/
theorem remaining_steps_add_le {n : Nat} (hp : e.program? = some p)
    (hgoing : ∀ j < n, (e.steps j).state.atEnd = false) (herr : (e.steps n).error? = none) :
    (e.steps n).state.remaining + n ≤ e.remaining := by
  induction n with
  | zero => exact Nat.le_refl _
  | succ n ih =>
    have hn := steps_error?_of_le (Nat.le_succ n) herr
    have hbefore := ih (fun j hj => hgoing j (Nat.lt_succ_of_lt hj)) hn
    rw [step_of_steps hn, Outcome.after_error?] at herr
    have hidle : (e.steps n).state.idle = false := by
      rw [idle_of_program? (by rw [steps_program?, hp])]
      exact hgoing n (Nat.lt_succ_self n)
    have hlt := remaining_step_lt hidle herr
    rw [step_of_steps hn, Outcome.after_state]
    omega

/-- As long as the execution goes on, every step leaves less to do. So it never comes back to a
state. -/
theorem remaining_steps_lt {m n : Nat} (hp : e.program? = some p) (hmn : m < n)
    (hgoing : ∀ j ≤ n, ending? (e.steps j) = none) :
    (e.steps n).state.remaining < (e.steps m).state.remaining := by
  obtain ⟨d, rfl⟩ := Nat.exists_eq_add_of_lt hmn
  have herr := (ending?_eq_none_iff.1 (hgoing m (Nat.le_of_lt hmn))).1
  have hlast := (ending?_eq_none_iff.1 (hgoing _ (Nat.le_refl _))).1
  rw [Nat.add_assoc, steps_add_of_success herr] at hlast ⊢
  have hle := remaining_steps_add_le (e := (e.steps m).state) (by rw [steps_program?, hp]) ?_ hlast
  · rw [Outcome.after_state]
    omega
  · intro j hj
    have hnone := hgoing (m + j) (by omega)
    rw [steps_add_of_success herr, ending?_after] at hnone
    exact (ending?_eq_none_iff.1 hnone).2.2

/-! ### Advancing is stepping -/

theorem steps_succ_of_success (h : e.step.error? = none) (n : Nat) :
    e.steps (n + 1) = (e.step.state.steps n).after e.step.events := by
  rw [steps_succ, Outcome.andThen_of_success h]

/-- When there is a reason to stop, advancing does nothing. -/
theorem advance_of_reason (hp : e.program? = some p)
    (h : (ending? (.quiet e)).isSome ∨ halt e) : e.advance halt #[] = .quiet e := by
  refine advance_of_stop ?_
  rcases h with hend | hhalt
  · rw [idle_of_program? hp]
    by_contra hno
    simp only [not_or, Bool.not_eq_true, Bool.not_eq_false] at hno
    rw [ending?_eq_none_iff.2 ⟨rfl, hno.2.1, hno.1⟩] at hend
    cases hend
  · exact .inr (.inr hhalt)

/-- Advancing makes the least number of steps after which there is a reason to stop. -/
theorem advance_eq_steps (halt : Engine → Bool) (hp : e.program? = some p) :
    ∃ k, e.advance halt #[] = e.steps k ∧
      ((ending? (e.steps k)).isSome ∨ halt (e.steps k).state) ∧
        ∀ j < k, ending? (e.steps j) = none ∧ halt (e.steps j).state = false := by
  -- the induction is on the bound of the steps that are left, which every step makes smaller
  induction hm : e.remaining using Nat.strongRecOn generalizing e with
  | ind m ih =>
    by_cases hstop : (ending? (.quiet e)).isSome ∨ halt e
    · exact ⟨0, advance_of_reason hp hstop, hstop, fun j hj => absurd hj (Nat.not_lt_zero j)⟩
    · obtain ⟨hend, hhalt⟩ := not_or.1 hstop
      rw [Option.not_isSome_iff_eq_none] at hend
      rw [Bool.not_eq_true] at hhalt
      obtain ⟨-, hok, hnot⟩ := ending?_eq_none_iff.1 hend
      have hidle : e.idle = false := by rw [idle_of_program? hp]; exact hnot
      rw [advance_eq_step hidle hok hhalt]
      cases herr : e.step.error? with
      | some error =>
        rw [Outcome.andThen_of_error? herr, ← steps_one]
        refine ⟨1, rfl, .inl ?_, ?_⟩
        · rw [ending?_of_error? (by rw [steps_one, herr])]
          rfl
        · intro j hj
          obtain rfl : j = 0 := by omega
          exact ⟨hend, hhalt⟩
      | none =>
        have hlt : e.step.state.remaining < m := hm ▸ remaining_step_lt hidle herr
        obtain ⟨k, hk, hreason, hbefore⟩ := ih _ hlt (by rw [step_program?, hp]) rfl
        refine ⟨k + 1, ?_, ?_, ?_⟩
        · rw [Outcome.andThen_of_success herr, hk, steps_succ_of_success herr]
        · rw [steps_succ_of_success herr]
          exact hreason
        · intro j hj
          cases j with
          | zero => exact ⟨hend, hhalt⟩
          | succ j =>
            rw [steps_succ_of_success herr]
            exact hbefore j (by omega)

/-- Steps at least once, and then until something stops it. -/
def go (halt : Engine → Bool) (e : Engine) : Outcome Engine ProgramError :=
  e.step.andThen fun e => e.advance halt #[]

/-- Going makes the least positive number of steps after which there is a reason to stop. -/
theorem go_eq_steps (halt : Engine → Bool) (hp : e.program? = some p) :
    ∃ k, e.go halt = e.steps (k + 1) ∧
      ((ending? (e.steps (k + 1))).isSome ∨ halt (e.steps (k + 1)).state) ∧
        ∀ j < k, ending? (e.steps (j + 1)) = none ∧ halt (e.steps (j + 1)).state = false := by
  cases herr : e.step.error? with
  | some error =>
    refine ⟨0, ?_, .inl ?_, fun j hj => absurd hj (Nat.not_lt_zero j)⟩
    · rw [go, Outcome.andThen_of_error? herr, steps_one]
    · rw [ending?_of_error? (by rw [steps_one, herr])]
      rfl
  | none =>
    have hp' : e.step.state.program? = some p := by rw [step_program?, hp]
    obtain ⟨k, hk, hreason, hbefore⟩ := advance_eq_steps halt hp'
    refine ⟨k, ?_, ?_, ?_⟩
    · rw [go, Outcome.andThen_of_success herr, hk, steps_succ_of_success herr]
    · rw [steps_succ_of_success herr]
      exact hreason
    · intro j hj
      rw [steps_succ_of_success herr]
      exact hbefore j hj

/-- The first positive number of steps after which there is a reason to stop is the one that going
makes. -/
theorem go_eq_steps_of_first {n : Nat} (hp : e.program? = some p)
    (hreason : (ending? (e.steps (n + 1))).isSome ∨ halt (e.steps (n + 1)).state)
    (hfirst : ∀ j < n, ending? (e.steps (j + 1)) = none ∧ halt (e.steps (j + 1)).state = false) :
    e.go halt = e.steps (n + 1) := by
  have hno : ∀ {j}, ending? (e.steps (j + 1)) = none ∧ halt (e.steps (j + 1)).state = false →
      ¬((ending? (e.steps (j + 1))).isSome ∨ halt (e.steps (j + 1)).state) := by
    rintro j ⟨hend, hhalt⟩
    simp [hend, hhalt]
  obtain ⟨k, hk, hstop, hbefore⟩ := go_eq_steps halt hp
  rcases Nat.lt_trichotomy k n with hlt | rfl | hgt
  · exact absurd hstop (hno (hfirst k hlt))
  · exact hk
  · exact absurd hreason (hno (hbefore n hgt))

end Engine

end LineDebugger
