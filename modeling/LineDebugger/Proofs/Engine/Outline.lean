import LineDebugger.Proofs.Engine.Steps
import LineDebugger.Proofs.Program.Outline

/-!
# Programs that look the same run the same

Two engines that differ in the texts of their programs only, and not in the outlines of these, do
the same: every step of one is a step of the other, with the same events, and leaves them in the
same difference. The text of a line comes out in one place, in the error about a line that cannot
be read, so that is where two outcomes may differ, and no other error is excepted. A statement that
cannot be executed is malformed as well, but it is quoted as it was read, not as it was written.

`Outcome.Alike` compares two outcomes in this way: the states by a relation, the errors by what is
left of them when the quoted text is taken out, and the events as they are. It is kept by every way
in which operations are put together, so what holds of a step holds of advancing, and of whatever
a session does.

## Main definitions

* `ProgramError.unquoted` — an error without the text of a line that cannot be read
* `Outcome.Alike` — outcomes that cannot be told apart but for such a text
* `Engine.Alike` — engines whose programs have the same outlines, and else the same

## Main results

* `Engine.Alike.step`, `Engine.Alike.advance` — what such engines do
-/

namespace LineDebugger

/-- The error without the text of a line that cannot be read. -/
def ProgramError.unquoted : ProgramError → ProgramError
  | malformed line text fault => malformed line (if fault.ofReading then "" else text) fault
  | error => error

/-! ### Outcomes -/

namespace Outcome

variable {σ σ' τ τ' ε δ : Type} {r : σ → σ' → Prop} {r' : τ → τ' → Prop} {view : ε → ε}
  {view' : δ → δ} {o : Outcome σ ε} {o' : Outcome σ' ε}

/-- The states are related, the events are the same, and so are the errors in this view. -/
structure Alike (r : σ → σ' → Prop) (view : ε → ε) (o : Outcome σ ε) (o' : Outcome σ' ε) :
    Prop where
  state : r o.state o'.state
  events : o.events = o'.events
  error? : o.error?.map view = o'.error?.map view

theorem Alike.done {s : σ} {s' : σ'} (h : r s s') (events : List Event) :
    Alike r view (.done s events) (.done s' events) :=
  ⟨h, rfl, rfl⟩

theorem Alike.fail {s : σ} {s' : σ'} (h : r s s') {error error' : ε}
    (herror : view error = view error') : Alike r view (.fail s error) (.fail s' error') :=
  ⟨h, rfl, congrArg some herror⟩

theorem Alike.error?_eq_none_iff (h : Alike r view o o') :
    o.error? = none ↔ o'.error? = none := by
  rw [← Option.map_eq_none_iff (f := view), h.error?, Option.map_eq_none_iff]

theorem Alike.after (h : Alike r view o o') (events : List Event) :
    Alike r view (o.after events) (o'.after events) :=
  ⟨h.state, congrArg (events ++ ·) h.events, h.error?⟩

theorem Alike.map {g : σ → τ} {g' : σ' → τ'} (h : Alike r view o o')
    (hg : ∀ {s s'}, r s s' → r' (g s) (g' s')) : Alike r' view (o.map g) (o'.map g') :=
  ⟨hg h.state, h.events, h.error?⟩

theorem Alike.mapError {g : ε → δ} (h : Alike r view o o')
    (hg : ∀ error, view' (g error) = g (view error)) :
    Alike r view' (o.mapError g) (o'.mapError g) := by
  refine ⟨h.state, h.events, ?_⟩
  have hview : view' ∘ g = g ∘ view := funext hg
  rw [Outcome.mapError, Outcome.mapError, Option.map_map, Option.map_map, hview, ← Option.map_map,
    h.error?, Option.map_map]

/-- Operations that go on from related states with outcomes alike have outcomes alike. -/
theorem Alike.andThen {next : σ → Outcome σ ε} {next' : σ' → Outcome σ' ε}
    (h : Alike r view o o')
    (hnext : o.error? = none → r o.state o'.state →
      Alike r view (next o.state) (next' o'.state)) :
    Alike r view (o.andThen next) (o'.andThen next') := by
  cases herr : o.error? with
  | some error =>
    cases herr' : o'.error? with
    | some error' =>
      rw [andThen_of_error? herr, andThen_of_error? herr']
      exact h
    | none =>
      rw [h.error?_eq_none_iff.2 herr'] at herr
      cases herr
  | none =>
    rw [andThen_of_success herr, andThen_of_success (h.error?_eq_none_iff.1 herr), h.events]
    exact (hnext herr h.state).after _

end Outcome

open Outcome

namespace Engine

variable {e e' : Engine} {p q : Program}

/-- The programs have the same outlines, and all else is the same. -/
structure Alike (e e' : Engine) : Prop where
  outlines : e.program?.map Program.outlines = e'.program?.map Program.outlines
  stack : e.stack = e'.stack
  cursor : e.cursor = e'.cursor
  interpreter : e.interpreter = e'.interpreter
  depthLimit : e.depthLimit = e'.depthLimit

theorem Alike.program?_eq_none_iff (h : e.Alike e') : e.program? = none ↔ e'.program? = none := by
  rw [← Option.map_eq_none_iff (f := Program.outlines), h.outlines, Option.map_eq_none_iff]

theorem Alike.exists_program (h : e.Alike e') (hp : e.program? = some p) :
    ∃ q, e'.program? = some q ∧ p.outlines = q.outlines := by
  have houtlines := h.outlines
  rw [hp, Option.map_some] at houtlines
  obtain ⟨q, hq, heq⟩ := Option.map_eq_some_iff.1 houtlines.symm
  exact ⟨q, hq, heq.symm⟩

theorem Alike.atEnd (h : e.Alike e') : e.atEnd = e'.atEnd := by
  have hover : ∀ e : Engine, e.atEnd = (e.program?.map Program.outlines).any fun outlines =>
      decide (outlines.length ≤ e.cursor) && e.stack.isEmpty := by
    intro e
    rw [Engine.atEnd, Option.any_map]
    congr
    funext p
    rw [Program.size_eq]
  rw [hover, hover, h.outlines, h.stack, h.cursor]

theorem Alike.idle (h : e.Alike e') : e.idle = e'.idle := by
  rw [Engine.idle, Engine.idle, h.atEnd]
  congr 1
  rw [Bool.eq_iff_iff, Option.isNone_iff_eq_none, Option.isNone_iff_eq_none,
    h.program?_eq_none_iff]

theorem Alike.succeeded (h : e.Alike e') : e.succeeded = e'.succeeded := by
  rw [Engine.succeeded, Engine.succeeded, h.interpreter]

theorem Alike.restarted (h : e.Alike e') : e.restarted.Alike e'.restarted :=
  ⟨h.outlines, rfl, rfl, rfl, h.depthLimit⟩

/-- Another stack and cursor, the same in both. -/
theorem Alike.move (h : e.Alike e') (stack : List Frame) (cursor : Nat) :
    Alike { e with stack := stack, cursor := cursor }
      { e' with stack := stack, cursor := cursor } :=
  ⟨h.outlines, rfl, rfl, h.interpreter, h.depthLimit⟩

theorem Alike.enter (h : e.Alike e') (houtlines : p.outlines = q.outlines) (name : String) :
    Outcome.Alike Alike ProgramError.unquoted (e.enter p name) (e'.enter q name) := by
  have hline := Program.functionLine?_eq_of_outlines houtlines name
  cases hd : p.functionLine? name with
  | none =>
    rw [enter_of_unknown hd, enter_of_unknown (hline ▸ hd), h.cursor]
    exact .fail h rfl
  | some header =>
    have hd' : q.functionLine? name = some header := hline ▸ hd
    rcases Nat.lt_or_ge e.stack.length e.depthLimit with hlt | hge
    · rw [enter_of_lt_limit hd hlt, enter_of_lt_limit hd' (by rwa [← h.stack, ← h.depthLimit]),
        h.stack, h.cursor]
      exact .done (h.move _ _) _
    · rw [enter_of_limit_le hd hge, enter_of_limit_le hd' (by rwa [← h.stack, ← h.depthLimit]),
        h.depthLimit, h.cursor]
      exact .fail h rfl

theorem Alike.runStatement (h : e.Alike e') (s : Statement) :
    Outcome.Alike Alike ProgramError.unquoted (e.runStatement s) (e'.runStatement s) := by
  rw [Engine.runStatement, Engine.runStatement, h.interpreter]
  exact ⟨⟨h.outlines, h.stack, congrArg (· + 1) h.cursor, rfl, h.depthLimit⟩, rfl, rfl⟩

theorem Alike.stepLine (h : e.Alike e') (houtlines : p.outlines = q.outlines) :
    Outcome.Alike Alike ProgramError.unquoted (e.stepLine p) (e'.stepLine q) := by
  have hread : ∀ {line}, p.read e.cursor = .ok line → q.read e'.cursor = .ok line := by
    intro line hl
    rw [← h.cursor]
    exact (Program.read_eq_ok_iff houtlines).1 hl
  rcases hl : p.read e.cursor with error | name | name | s
  · obtain ⟨text, text', fault, hfault, rfl, hl'⟩ := Program.exists_malformed_of_read houtlines hl
    rw [h.cursor] at hl'
    rw [stepLine_of_error hl, stepLine_of_error hl', h.cursor]
    -- the two errors quote their own lines
    exact .fail h (by simp [ProgramError.unquoted, hfault])
  · rw [stepLine_of_definition hl, stepLine_of_definition (hread hl), Program.blockEnd_eq,
      Program.blockEnd_eq, houtlines, h.cursor]
    exact ⟨⟨h.outlines, h.stack, rfl, h.interpreter, h.depthLimit⟩, rfl, rfl⟩
  · rw [stepLine_of_call hl, stepLine_of_call (hread hl)]
    exact h.enter houtlines name
  · rw [stepLine_of_statement hl, stepLine_of_statement (hread hl)]
    exact h.runStatement s

/-- Engines whose programs look the same make the same step. -/
theorem Alike.step (h : e.Alike e') :
    Outcome.Alike Alike ProgramError.unquoted e.step e'.step := by
  cases hp : e.program? with
  | none =>
    rw [step_of_no_program hp, step_of_no_program (h.program?_eq_none_iff.1 hp)]
    exact .done h _
  | some p =>
    obtain ⟨q, hq, houtlines⟩ := h.exists_program hp
    have hline := Program.functionLine?_eq_of_outlines houtlines
    have hbody : q.isBody e'.cursor = p.isBody e.cursor := by
      rw [Program.isBody_eq, Program.isBody_eq, houtlines, h.cursor]
    cases hend : e.atEnd with
    | true =>
      rw [step_of_atEnd hp hend, step_of_atEnd hq (h.atEnd ▸ hend)]
      exact .done h _
    | false =>
      rcases step_cases hp hend with ⟨frame, outer, hs, hh⟩ | hr | ⟨frame, outer, hs, hh, hb⟩
      · rw [step_of_header hp hs hh,
          step_of_header hq (h.stack ▸ hs) (by rw [← hline, ← h.cursor, hh]), h.cursor]
        exact ⟨⟨h.outlines, h.stack, rfl, h.interpreter, h.depthLimit⟩, rfl, rfl⟩
      · have hr' : q.Reads e'.stack e'.cursor := by
          rw [← h.stack]
          cases hs : e.stack with
          | nil =>
            rw [hs] at hr
            show e'.cursor < q.size
            rw [Program.size_eq, ← houtlines, ← Program.size_eq, ← h.cursor]
            exact hr
          | cons frame outer =>
            rw [hs] at hr
            exact ⟨by rw [← hline, ← h.cursor]; exact hr.1, hbody ▸ hr.2⟩
        rw [step_of_reads hp hr, step_of_reads hq hr']
        exact h.stepLine houtlines
      · rw [step_of_leaves hp hs hh hb, step_of_leaves hq (h.stack ▸ hs)
          (by rw [← hline, ← h.cursor]; exact hh) (by rwa [hbody])]
        exact .done (h.move _ _) _

/-- Engines whose programs look the same advance to the same stop. -/
theorem Alike.advance {halt : Engine → Bool} (hhalt : ∀ {e e'}, e.Alike e' → halt e = halt e')
    (h : e.Alike e') :
    Outcome.Alike Alike ProgramError.unquoted (e.advance halt #[]) (e'.advance halt #[]) := by
  -- the induction is on the bound of the steps that are left, which every step makes smaller
  induction hm : e.remaining using Nat.strongRecOn generalizing e e' with
  | ind m ih =>
    by_cases hstop : e.idle ∨ e.succeeded = false ∨ halt e
    · have hstop' : e'.idle ∨ e'.succeeded = false ∨ halt e' := by
        rwa [← h.idle, ← h.succeeded, ← hhalt h]
      rw [advance_of_stop hstop, advance_of_stop hstop']
      exact .done h _
    · simp only [not_or, Bool.not_eq_true, Bool.not_eq_false] at hstop
      obtain ⟨hidle, hok, hgoing⟩ := hstop
      rw [advance_eq_step hidle hok hgoing, advance_eq_step (e := e') (h.idle ▸ hidle)
        (h.succeeded ▸ hok) (hhalt h ▸ hgoing)]
      refine h.step.andThen fun herr hnext => ?_
      exact ih _ (hm ▸ remaining_step_lt hidle herr) hnext rfl

end Engine

end LineDebugger
