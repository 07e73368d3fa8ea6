import LineDebugger.Proofs.Engine.Steps

/-!
# Calls in lockstep

How a call goes on depends on the function that is called, and not on the calls below it: as long
as the call is under way, every move is the same over any other calls, and it is the only one. So
two calls of the same function go through the same lines, with the same calls of their own.

If one of the two is made in the course of the other, the inner one cannot be the first to return:
the outer one is ahead of it, and would have returned already. This is how a call that is made
again from its own line is kept from returning to that line too early.

Positions are followed along a *path*, a sequence in which each is a move away from the one before.
The steps of an engine are a path as long as none of them fails.

## Main definitions

* `Position.Path` — so many positions, each a move away from the one before

## Main results

* `Position.Move.deterministic`, `Position.Move.rebase` — moves are functional, and local to a call
* `Position.Path.entered` — where a call under way was made
* `Position.Path.lockstep` — two calls of the same function go through the same lines
* `Position.Path.inner_under_way` — a call inside a call of the same function does not return first
* `Engine.path_of_steps` — steps that do not fail are a path
-/

namespace LineDebugger

namespace Position

variable {p : Program} {a b c : Position} {frame other : Frame} {above base : List Frame}
  {index : Nat}

/-- From a position there is no more than one move. -/
theorem Move.deterministic (h : Move p a b) (h' : Move p a c) : b = c := by
  cases h with
  | header hh =>
    cases h' with
    | header => rfl
    | skip hr | enter hr | statement hr => exact absurd hh hr.1
    | leave hh' => exact absurd hh hh'
  | skip hr hl =>
    cases h' with
    | skip => rfl
    | header hh => exact absurd hh hr.1
    | enter _ hl' | statement _ hl' => rw [hl] at hl'; cases hl'
    | leave _ hb => exact absurd hr.2 hb
  | enter hr hl hd =>
    cases h' with
    | enter _ hl' hd' =>
      rw [hl] at hl'
      cases hl'
      rw [hd] at hd'
      cases hd'
      rfl
    | header hh => exact absurd hh hr.1
    | skip _ hl' | statement _ hl' => rw [hl] at hl'; cases hl'
    | leave _ hb => exact absurd hr.2 hb
  | statement hr hl =>
    cases h' with
    | statement => rfl
    | header hh => exact absurd hh hr.1
    | skip _ hl' | enter _ hl' => rw [hl] at hl'; cases hl'
    | leave _ hb => exact absurd hr.2 hb
  | leave hh hb =>
    cases h' with
    | leave => rfl
    | header hh' => exact absurd hh' hh
    | skip hr | enter hr | statement hr => exact absurd hr.2 hb

/-- With a call under way, a move either keeps it, and is the same over any other calls, or returns
from it. -/
theorem Move.rebase (h : Move p ⟨above ++ frame :: base, index⟩ b) :
    (∃ above' cursor, b = ⟨above' ++ frame :: base, cursor⟩ ∧
        ∀ other base', other.function = frame.function →
          Move p ⟨above ++ other :: base', index⟩ ⟨above' ++ other :: base', cursor⟩) ∨
      above = [] ∧ b = ⟨base, frame.returnLine⟩ := by
  cases above with
  | nil =>
    have hreads : ∀ {other base'}, other.function = frame.function →
        p.Reads (frame :: base) index → p.Reads (other :: base') index := by
      intro other base' hf hr
      rw [Program.Reads, hf]
      exact hr
    cases h with
    | header hh =>
      exact .inl ⟨[], _, rfl, fun other base' hf => .header (by rw [hf]; exact hh)⟩
    | skip hr hl => exact .inl ⟨[], _, rfl, fun other base' hf => .skip (hreads hf hr) hl⟩
    | enter hr hl hd => exact .inl ⟨[_], _, rfl, fun other base' hf => .enter (hreads hf hr) hl hd⟩
    | statement hr hl =>
      exact .inl ⟨[], _, rfl, fun other base' hf => .statement (hreads hf hr) hl⟩
    | leave hh hb => exact .inr ⟨rfl, rfl⟩
  | cons top above =>
    refine .inl ?_
    cases h with
    | header hh => exact ⟨top :: above, _, rfl, fun other base' hf => .header hh⟩
    | skip hr hl => exact ⟨top :: above, _, rfl, fun other base' hf => .skip hr hl⟩
    | enter hr hl hd => exact ⟨_ :: top :: above, _, rfl, fun other base' hf => .enter hr hl hd⟩
    | statement hr hl => exact ⟨top :: above, _, rfl, fun other base' hf => .statement hr hl⟩
    | leave hh hb => exact ⟨above, _, rfl, fun other base' hf => .leave hh hb⟩

/-- After a move a call is under way that was under way before, or that the move has made: from a
line that calls the function, to its header. -/
theorem Move.calls (h : Move p a b) (hb : b.stack = above ++ frame :: base) :
    (∃ above', a.stack = above' ++ frame :: base) ∨
      b.stack = frame :: base ∧ p.read frame.callLine = .ok (.call frame.function) ∧
        p.functionLine? frame.function = some b.cursor := by
  cases h with
  | header hh => exact .inl ⟨above, hb⟩
  | skip hr hl => exact .inl ⟨above, hb⟩
  | statement hr hl => exact .inl ⟨above, hb⟩
  | leave hh hb' => exact .inl ⟨_ :: above, congrArg _ hb⟩
  | enter hr hl hd =>
    cases above with
    | nil =>
      obtain ⟨rfl, rfl⟩ := List.cons_eq_cons.1 hb
      exact .inr ⟨rfl, hl, hd⟩
    | cons top above => exact .inl ⟨above, (List.cons_eq_cons.1 hb).2⟩

/-! ### Paths -/

/-- So many positions after the first one, each a move away from the one before. -/
def Path (p : Program) (n : Nat) (pos : Nat → Position) : Prop :=
  ∀ i < n, Move p (pos i) (pos (i + 1))

variable {n : Nat} {pos : Nat → Position}

/-- The first moves of a path are a path. -/
theorem Path.of_le {k : Nat} (hpath : Path p n pos) (hk : k ≤ n) : Path p k pos := by
  intro i hi
  exact hpath i (Nat.lt_of_lt_of_le hi hk)

/-- What follows the first move of a path is a path. -/
theorem Path.tail (hpath : Path p (n + 1) pos) : Path p n fun i => pos (i + 1) := by
  intro i hi
  exact hpath (i + 1) (Nat.succ_lt_succ hi)

/-- A call that is under way and was not at the start was made on the path: from a line that calls
the function, to its header. -/
theorem Path.entered (hpath : Path p n pos) (hstart : (pos 0).stack = base) {i : Nat} (hi : i ≤ n)
    {top between : List Frame} (hstack : (pos i).stack = top ++ frame :: (between ++ base)) :
    p.read frame.callLine = .ok (.call frame.function) ∧
      ∃ j ≤ i, (pos j).stack = frame :: (between ++ base) ∧
        p.functionLine? frame.function = some (pos j).cursor := by
  induction i generalizing top with
  | zero =>
    have hlen := congrArg List.length (hstart.symm.trans hstack)
    simp only [List.length_append, List.length_cons] at hlen
    omega
  | succ i ih =>
    rcases (hpath i hi).calls hstack with ⟨top', hbefore⟩ | ⟨hnow, hl, hd⟩
    · obtain ⟨hl, j, hj, hrest⟩ := ih (Nat.le_of_succ_le hi) hbefore
      exact ⟨hl, j, Nat.le_succ_of_le hj, hrest⟩
    · exact ⟨hl, i + 1, Nat.le_refl _, hnow, hd⟩

/-- Two calls of the same function that stand at the same line go on through the same lines, as
long as the first is under way. The second one is made on the path of the first. -/
theorem Path.lockstep (hpath : Path p n pos) {base' : List Frame} {start : Nat}
    (hf : other.function = frame.function)
    (hunder : ∀ i ≤ n, ∃ above cursor, pos i = ⟨above ++ frame :: base, cursor⟩)
    (hfirst : pos 0 = ⟨frame :: base, index⟩) (hsecond : pos start = ⟨other :: base', index⟩)
    {i : Nat} (hi : start + i ≤ n) :
    ∃ above cursor, pos i = ⟨above ++ frame :: base, cursor⟩ ∧
      pos (start + i) = ⟨above ++ other :: base', cursor⟩ := by
  induction i with
  | zero => exact ⟨[], index, hfirst, hsecond⟩
  | succ i ih =>
    obtain ⟨above, cursor, ha, hb⟩ := ih (by omega)
    have hmove := hpath i (by omega)
    have hmove' := hpath (start + i) (by omega)
    rw [ha] at hmove
    rw [hb] at hmove'
    rcases hmove.rebase with ⟨above', cursor', heq, hsame⟩ | ⟨-, heq⟩
    · exact ⟨above', cursor', heq, hmove'.deterministic (hsame other base' hf)⟩
    · -- a return would end the first call
      obtain ⟨top, here, hstill⟩ := hunder (i + 1) (by omega)
      have hlen := congrArg (·.stack.length) (hstill.symm.trans heq)
      simp only [List.length_append, List.length_cons] at hlen
      omega

/-- A call made on the path of a call of the same function is under way as long as that one: of
the two, the inner one does not return first. -/
theorem Path.inner_under_way (hpath : Path p n pos) {between : List Frame} {start : Nat}
    (hf : other.function = frame.function)
    (hunder : ∀ i ≤ n, ∃ above cursor, pos i = ⟨above ++ frame :: base, cursor⟩)
    (hfirst : pos 0 = ⟨frame :: base, index⟩)
    (hsecond : pos start = ⟨other :: (between ++ frame :: base), index⟩) {i : Nat} (hs : start ≤ i)
    (hi : i ≤ n) :
    ∃ above cursor, pos i = ⟨above ++ other :: (between ++ frame :: base), cursor⟩ := by
  obtain ⟨d, rfl⟩ := Nat.exists_eq_add_of_le hs
  obtain ⟨above, cursor, -, hb⟩ := hpath.lockstep hf hunder hfirst hsecond hi
  exact ⟨above, cursor, hb⟩

end Position

namespace Engine

variable {e : Engine} {p : Program}

/-- As long as there is something left to do and nothing fails, the steps are a path. -/
theorem path_of_steps {n : Nat} (hp : e.program? = some p)
    (hgoing : ∀ j < n, (e.steps j).state.atEnd = false) (herr : (e.steps n).error? = none) :
    Position.Path p n fun i => (e.steps i).state.position := by
  intro i hi
  have hi' := steps_error?_of_le (Nat.le_of_lt hi) herr
  have hnext : (e.steps (i + 1)).error? = none := steps_error?_of_le hi herr
  rw [step_of_steps hi', Outcome.after_error?] at hnext
  dsimp only
  rw [step_of_steps hi', Outcome.after_state]
  exact move_of_step (by rw [steps_program?, hp]) (hgoing i hi) hnext

end Engine

end LineDebugger
