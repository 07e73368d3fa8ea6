import LineDebugger.Proofs.Engine.Steps
import Mathlib.Logic.Function.Iterate

/-!
# Every execution comes to an ending

A call sends the cursor back and a return sends it anywhere, so no single number counts an
execution down. What does is `Engine.remaining`, the bound on the steps that are left: it looks at
the cursor, and at every call under way, as much of the program as that call still owes. It depends
on the position alone. So a position that a step has left for good reason never comes back, and an
execution has come to an ending after no more steps than the bound says, whatever calls itself.

A failed step ends an execution, but the engine does not forbid to make more steps. `Engine.trail`
goes on regardless, and even then nothing comes back: a step that fails stays where it is, or goes
on to the next line.

## Main definitions

* `Engine.trail` — the states that steps lead through, whichever of them fail
* `Engine.FirstStop` — the first positive number of steps after which there is a reason to stop

## Main results

* `Engine.trail_position_ne` — a position that a step has left does not come back
* `Engine.position_steps_ne` — so an execution that goes on is never where it set out from
* `Engine.exists_error_or_atEnd` — steps come to an error or to the end of the program
* `Engine.exists_firstStop` — there is a first stop, and going goes there
-/

namespace LineDebugger

namespace Engine

variable {e : Engine} {p : Program} {halt : Engine → Bool}

/-! ### No position comes back -/

/-- The bound on what is left depends on the program, the limit on calls and the position. -/
theorem remaining_congr {e' : Engine} (hp : e'.program? = e.program?)
    (hlimit : e'.depthLimit = e.depthLimit) (hpos : e'.position = e.position) :
    e'.remaining = e.remaining := by
  have hs : e'.stack = e.stack := congrArg Position.stack hpos
  have hc : e'.cursor = e.cursor := congrArg Position.cursor hpos
  simp only [remaining, remainingOf, size, hp, hlimit, hs, hc]

/-- No step leaves more to do, whether it succeeds or fails. -/
theorem remaining_step_le (hp : e.program? = some p) : e.step.state.remaining ≤ e.remaining := by
  cases herr : e.step.error? with
  | none =>
    cases hend : e.atEnd with
    | true => rw [step_of_atEnd hp hend]; exact Nat.le_refl _
    | false =>
      have hidle : e.idle = false := by rw [idle_of_program? hp]; exact hend
      exact Nat.le_of_lt (remaining_step_lt hidle herr)
  | some error =>
    obtain ⟨hr, hstay | ⟨i, hnext⟩⟩ := reads_of_step_error hp herr
    · exact Nat.le_of_eq (congrArg remaining hstay)
    · have hlt : e.cursor < e.size := by
        rw [size_of_program? hp]
        exact hr.lt_size
      rw [hnext]
      exact Nat.le_of_lt (remainingOf_forward (Nat.lt_succ_self _) hlt)

/-- The state after so many steps, whichever of them fail. -/
def trail (e : Engine) (n : Nat) : Engine := (fun e => e.step.state)^[n] e

theorem trail_succ (e : Engine) (n : Nat) : e.trail (n + 1) = (e.trail n).step.state :=
  Function.iterate_succ_apply' _ _ _

@[simp] theorem trail_program? (e : Engine) (n : Nat) : (e.trail n).program? = e.program? := by
  induction n with
  | zero => rfl
  | succ n ih => rw [trail_succ, step_program?, ih]

@[simp] theorem trail_depthLimit (e : Engine) (n : Nat) :
    (e.trail n).depthLimit = e.depthLimit := by
  induction n with
  | zero => rfl
  | succ n ih => rw [trail_succ, step_depthLimit, ih]

theorem remaining_trail_le {m n : Nat} (hp : e.program? = some p) (hmn : m ≤ n) :
    (e.trail n).remaining ≤ (e.trail m).remaining := by
  induction hmn with
  | refl => exact Nat.le_refl _
  | @step n hmn ih =>
    have hstep := remaining_step_le (e := e.trail n) (by rw [trail_program?, hp])
    rw [trail_succ]
    exact Nat.le_trans hstep ih

/-- **No position comes back.** Once a step has succeeded before the end of the program, no further
steps lead back to where it was made. -/
theorem trail_position_ne {m n : Nat} (hp : e.program? = some p) (hmn : m < n)
    (hend : (e.trail m).atEnd = false) (herr : (e.trail m).step.error? = none) :
    (e.trail n).position ≠ (e.trail m).position := by
  intro hback
  have hidle : (e.trail m).idle = false := by
    rw [idle_of_program? (by rw [trail_program?, hp])]
    exact hend
  have hlt := remaining_step_lt hidle herr
  have hle := remaining_trail_le hp (Nat.succ_le_of_lt hmn)
  have hsame : (e.trail n).remaining = (e.trail m).remaining :=
    remaining_congr (by simp) (by simp) hback
  rw [trail_succ] at hle
  omega

/-- Steps come to an error or to the end of the program. -/
theorem exists_error_or_atEnd (hp : e.program? = some p) :
    ∃ n ≤ e.remaining + 1, (e.steps n).error?.isSome ∨ (e.steps n).state.atEnd := by
  by_contra hno
  have hgoing : ∀ n ≤ e.remaining + 1,
      (e.steps n).error? = none ∧ (e.steps n).state.atEnd = false := by
    intro n hn
    constructor
    · by_contra herr
      exact hno ⟨n, hn, .inl (Option.isSome_iff_ne_none.2 herr)⟩
    · by_contra hend
      exact hno ⟨n, hn, .inr (by simpa using hend)⟩
  have hle := remaining_steps_add_le hp (fun j hj => (hgoing j (Nat.le_of_lt hj)).2)
    (hgoing _ (Nat.le_refl _)).1
  omega

/-- If the first step comes to no ending, there was something left to do. -/
theorem atEnd_of_first_step (hp : e.program? = some p) (h : ending? (e.steps 1) = none) :
    e.atEnd = false := by
  by_contra hend
  rw [Bool.not_eq_false] at hend
  rw [steps_one, step_of_atEnd hp hend, ending?_eq_none_iff] at h
  exact absurd (h.2.2.symm.trans hend) Bool.false_ne_true

/-- As long as the execution goes on, it does not come back to where it set out. -/
theorem position_steps_ne {n : Nat} (hp : e.program? = some p)
    (hgoing : ∀ j ≤ n, ending? (e.steps (j + 1)) = none) :
    (e.steps (n + 1)).state.position ≠ e.position := by
  intro hback
  have hsame : (e.steps (n + 1)).state.remaining = e.remaining :=
    remaining_congr (by simp) (by simp) hback
  have hend : ∀ j < n + 1, (e.steps j).state.atEnd = false := by
    intro j hj
    cases j with
    | zero => exact atEnd_of_first_step hp (hgoing 0 (Nat.zero_le n))
    | succ j => exact (ending?_eq_none_iff.1 (hgoing j (by omega))).2.2
  have hle := remaining_steps_add_le hp hend
    (ending?_eq_none_iff.1 (hgoing n (Nat.le_refl n))).1
  omega

/-! ### Where going stops -/

/-- So many steps are the first, and at least one, after which there is a reason to stop: the
execution has come to an ending, or `halt` holds. -/
structure FirstStop (halt : Engine → Bool) (e : Engine) (n : Nat) : Prop where
  pos : 0 < n
  stops : (ending? (e.steps n)).isSome ∨ halt (e.steps n).state
  goes : ∀ j, 0 < j → j < n → ending? (e.steps j) = none ∧ halt (e.steps j).state = false

/-- What comes before the first stop is something to do. -/
theorem FirstStop.atEnd_eq_false {n j : Nat} (hp : e.program? = some p)
    (h : e.FirstStop halt n) (hj : j + 1 < n) : (e.steps j).state.atEnd = false := by
  cases j with
  | zero => exact atEnd_of_first_step hp (h.goes 1 Nat.one_pos hj).1
  | succ j => exact (ending?_eq_none_iff.1 (h.goes (j + 1) j.succ_pos (Nat.lt_of_succ_lt hj)).1).2.2

/-- A first stop without an error or a missing variable is the end of the program, or `halt`
holds there. -/
theorem FirstStop.atEnd_or_halt {n : Nat} (h : e.FirstStop halt n)
    (herr : (e.steps n).error? = none) (hok : (e.steps n).state.succeeded) :
    (e.steps n).state.atEnd ∨ halt (e.steps n).state := by
  refine h.stops.imp_left ?_
  rw [ending?, herr, isSome_ended?, hok]
  simp

/-- There is a first stop, no more steps away than the bound says, and going goes there. -/
theorem exists_firstStop (halt : Engine → Bool) (hp : e.program? = some p) :
    ∃ n ≤ e.remaining + 1, e.FirstStop halt n ∧ e.go halt = e.steps n := by
  obtain ⟨k, hk, hreason, hbefore⟩ := go_eq_steps halt hp
  have hfirst : e.FirstStop halt (k + 1) := by
    refine ⟨Nat.succ_pos k, hreason, ?_⟩
    intro j hpos hj
    obtain ⟨j, rfl⟩ := Nat.exists_eq_add_one_of_ne_zero (Nat.ne_of_gt hpos)
    exact hbefore j (Nat.lt_of_succ_lt_succ hj)
  refine ⟨k + 1, ?_, hfirst, hk⟩
  have herr := steps_error?_of_going fun j hj => (hbefore j hj).1
  have hle := remaining_steps_add_le hp
    (fun j hj => hfirst.atEnd_eq_false hp (Nat.succ_lt_succ hj)) herr
  omega

end Engine

end LineDebugger
