import LineDebugger.Engine.Basic

/-!
# Advancing to a stop

An engine advances by stepping until something stops it: an error, a variable that was missing,
the end of the program, or a condition on the state that the caller gives. It always stops, also
in a program that calls itself, because only so many calls can be under way at once.

The bound behind this counts the steps that are left at most. Suppose that `W d` steps are enough
for one line at call depth `d`, the calls it makes included. With `n` lines, a call from depth `d`
costs at most `(n + 1) * W (d + 1)` steps and one more for the return, and at the greatest depth
allowed a line costs one step. Each call under way still owes the lines behind its call line.
Every step that does something and succeeds makes the total smaller, whatever state it starts from.

## Main definitions

* `Engine.remaining` — a bound on the steps that are left
* `Engine.advance` — stepping to a stop

## Main results

* `Engine.remaining_step_lt` — a step that succeeds makes the bound smaller
* `Engine.advance_past` — what happened before comes first and changes nothing else
* `Engine.advance_eq_step` — advancing is a step and then advancing, until something stops it
-/

namespace LineDebugger

namespace Engine

/-- Enough steps for one line, its calls included, in a program of `n` lines when `levels` more
calls may nest. -/
def lineBound (n : Nat) : Nat → Nat
  | 0 => 1
  | levels + 1 => (n + 1) * lineBound n levels + 2

theorem one_le_lineBound (n levels : Nat) : 1 ≤ lineBound n levels := by
  cases levels <;> simp [lineBound]

/-- Enough steps to return from the calls under way and to run what follows them. -/
def stackBound (n limit : Nat) : List Frame → Nat
  | [] => 0
  | frame :: outer =>
    (n - frame.callLine) * lineBound n (limit - outer.length) + 1 + stackBound n limit outer

/-- Enough steps for all that is left of a program of `n` lines. -/
def remainingOf (n : Nat) (e : Engine) : Nat :=
  (n + 1 - e.cursor) * lineBound n (e.depthLimit - e.stack.length) +
    stackBound n e.depthLimit e.stack

/-- The number of lines of the program. -/
def size (e : Engine) : Nat := e.program?.elim 0 Program.size

theorem size_of_program? {e : Engine} {p : Program} (hp : e.program? = some p) :
    e.size = p.size := by
  rw [size, hp]
  rfl

/-- A bound on the steps that are left. -/
def remaining (e : Engine) : Nat := remainingOf e.size e

/-- Moving the cursor forward from an existing line makes the bound smaller. -/
theorem remainingOf_forward {n : Nat} {e : Engine} {cursor : Nat} {i : Interpreter}
    (hc : e.cursor < cursor) (hn : e.cursor < n) :
    remainingOf n { e with cursor := cursor, interpreter := i } < remainingOf n e := by
  have hb := one_le_lineBound n (e.depthLimit - e.stack.length)
  have : (n + 1 - cursor) * lineBound n (e.depthLimit - e.stack.length) <
      (n + 1 - e.cursor) * lineBound n (e.depthLimit - e.stack.length) :=
    Nat.mul_lt_mul_of_pos_right (by omega) hb
  simp only [remainingOf]
  omega

/-- Entering a function from an existing line makes the bound smaller. -/
theorem remainingOf_enter {n : Nat} {e : Engine} {frame : Frame} {header : Nat}
    (hf : frame.callLine = e.cursor) (hn : e.cursor < n) (hd : e.stack.length < e.depthLimit) :
    remainingOf n { e with stack := frame :: e.stack, cursor := header } < remainingOf n e := by
  obtain ⟨levels, hl⟩ : ∃ levels, e.depthLimit - e.stack.length = levels + 1 :=
    ⟨e.depthLimit - e.stack.length - 1, by omega⟩
  have hl' : e.depthLimit - (e.stack.length + 1) = levels := by omega
  have hcall : (n + 1 - header) * lineBound n levels ≤ (n + 1) * lineBound n levels :=
    Nat.mul_le_mul_right _ (Nat.sub_le _ _)
  have hline : (n + 1 - e.cursor) * lineBound n (levels + 1) =
      (n - e.cursor) * lineBound n (levels + 1) + lineBound n (levels + 1) := by
    rw [← Nat.succ_mul]; congr 1; omega
  simp only [remainingOf, stackBound, List.length_cons, hf, hl, hl', hline]
  simp only [lineBound]
  omega

/-- Returning from a call makes the bound smaller. -/
theorem remainingOf_return {n : Nat} {e : Engine} {frame : Frame} {outer : List Frame}
    (hs : e.stack = frame :: outer) :
    remainingOf n { e with stack := outer, cursor := frame.returnLine } < remainingOf n e := by
  simp only [remainingOf, hs, stackBound, Frame.returnLine, Nat.add_sub_add_right]
  omega

theorem remainingOf_stepLine {p : Program} {e : Engine} (hn : e.cursor < p.size)
    (h : (e.stepLine p).error? = none) :
    remainingOf p.size (e.stepLine p).state < remainingOf p.size e := by
  rw [stepLine] at h ⊢
  split at h
  · simp at h
  · exact remainingOf_forward (Nat.lt_of_succ_le (p.le_blockEnd _)) hn
  · rw [enter] at h ⊢
    split at h
    · simp at h
    · split at h
      · simp at h
      · next hd =>
        rw [if_neg hd]
        exact remainingOf_enter rfl hn (Nat.lt_of_not_le hd)
  · exact remainingOf_forward (Nat.lt_succ_self _) hn

theorem remainingOf_stepIn {p : Program} {e : Engine} (hn : e.cursor < p.size ∨ e.stack ≠ [])
    (h : (e.stepIn p).error? = none) :
    remainingOf p.size (e.stepIn p).state < remainingOf p.size e := by
  rw [stepIn] at h ⊢
  split at h
  · next hs => exact remainingOf_stepLine (hn.resolve_right (not_not_intro hs)) h
  · next frame outer hs =>
    split at h
    · next hf =>
      rw [if_pos hf]
      exact remainingOf_forward (Nat.lt_succ_self _) (Program.lt_size_of_functionLine? hf)
    · next hf =>
      rw [if_neg hf]
      split at h
      · next hb => rw [if_pos hb]; exact remainingOf_stepLine (Program.lt_size_of_isBody hb) h
      · next hb => rw [if_neg hb]; exact remainingOf_return hs

/-- A step keeps the program. -/
@[simp] theorem step_program? (e : Engine) : e.step.state.program? = e.program? := by
  rw [step]
  split
  · rfl
  · split
    · rfl
    · rw [stepIn]
      have hline : ∀ p, (e.stepLine p).state.program? = e.program? := by
        intro p
        rw [stepLine]
        split
        · rfl
        · rfl
        · rw [enter]; split
          · rfl
          · split <;> rfl
        · rfl
      split
      · exact hline _
      · split
        · rfl
        · split
          · exact hline _
          · rfl

/-- A step that does something and succeeds makes the bound smaller. -/
theorem remaining_step_lt {e : Engine} (hi : e.idle = false) (h : e.step.error? = none) :
    e.step.state.remaining < e.remaining := by
  have hsize : e.step.state.size = e.size := by simp [size]
  rw [remaining, remaining, hsize]
  rw [step] at h ⊢
  split at h
  · next hp => simp [idle, hp] at hi
  · next p hp =>
    have hend : e.atEnd = false := by simpa [idle, hp] using hi
    rw [hend] at h ⊢
    rw [size_of_program? hp]
    refine remainingOf_stepIn ?_ h
    simpa [atEnd, hp, Decidable.imp_iff_not_or, List.isEmpty_iff] using hend

/-- Steps until there is an error, a variable was missing, the program is over or `halt` holds.
The events of `past` come before those of the steps. -/
def advance (halt : Engine → Bool) (e : Engine) (past : Array Event) :
    Outcome Engine ProgramError :=
  if e.idle then .done e past.toList
  else if !e.succeeded || halt e then .done e past.toList
  else
    match _ : e.step with
    | ⟨next, events, none⟩ => advance halt next (past ++ events)
    | ⟨last, events, some error⟩ => ⟨last, past.toList ++ events, some error⟩
termination_by e.remaining
decreasing_by
  rename_i hidle _ hstep
  have := remaining_step_lt (by simpa using hidle) (by rw [hstep])
  rwa [hstep] at this

/-- What happened before comes first and changes nothing else. -/
theorem advance_past (halt : Engine → Bool) (e : Engine) (past : Array Event) :
    e.advance halt past = (e.advance halt #[]).after past.toList := by
  have key : ∀ before now : Array Event,
      e.advance halt (before ++ now) = (e.advance halt now).after before.toList := by
    intro before now
    fun_induction advance halt e now generalizing before with
    | case1 e now hidle => rw [advance, if_pos hidle]; simp [Outcome.done, Outcome.after]
    | case2 e now hidle hstop =>
      rw [advance, if_neg hidle, if_pos hstop]; simp [Outcome.done, Outcome.after]
    | case3 e now hidle hstop next events hstep ih =>
      rw [advance, if_neg hidle, if_neg hstop]
      split
      · next h =>
        rw [hstep] at h
        cases h
        rw [← ih before]
        congr 1
        apply Array.toList_inj.1
        simp
      · next h => rw [hstep] at h; cases h
    | case4 e now hidle hstop last events error hstep =>
      rw [advance, if_neg hidle, if_neg hstop]
      split
      · next h => rw [hstep] at h; cases h
      · next h =>
        rw [hstep] at h
        cases h
        simp [Outcome.after]
  simpa using key past #[]

/-- When something stops it, advancing does nothing. -/
theorem advance_of_stop {halt : Engine → Bool} {e : Engine}
    (h : e.idle ∨ e.succeeded = false ∨ halt e) : e.advance halt #[] = .quiet e := by
  rw [advance]
  split
  · rfl
  · next hidle =>
    rw [if_pos]
    · rfl
    · rcases h with h | h | h
      · exact absurd h hidle
      · simp [h]
      · simp [h]

/-- Until something stops it, advancing is a step and then advancing. -/
theorem advance_eq_step {halt : Engine → Bool} {e : Engine} (hidle : e.idle = false)
    (hok : e.succeeded) (hhalt : halt e = false) :
    e.advance halt #[] = e.step.andThen fun e => e.advance halt #[] := by
  rw [advance, if_neg (by simp [hidle]), if_neg (by simp [hok, hhalt])]
  split
  · next h => rw [h, Outcome.andThen_of_success rfl, advance_past]; simp
  · next h => rw [h, Outcome.andThen_of_error? rfl]; simp

end Engine

end LineDebugger
