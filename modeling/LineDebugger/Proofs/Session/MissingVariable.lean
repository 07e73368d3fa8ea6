import LineDebugger.Proofs.Engine.Execution
import LineDebugger.Proofs.Session.Command

/-!
# Missing variables

A statement about a variable that is not in memory is no error. It is told by an event, and it
leaves a flag down that nothing but a fresh start lifts again. Whoever drives the program looks at
the flag, and whoever watches it sees the event, so the two have to agree: as long as the flag was
up before, an operation tells of a missing variable exactly if the flag is down after it.

Operations are put together by `Outcome.andThen`, and the agreement carries over to what is put
together because a flag that is down stays down.

## Main definitions

* `Outcome.TellsMissing` — the event is among the events exactly if the flag is down

## Main results

* `Engine.step_tellsMissing`, `Engine.steps_tellsMissing` — so it is with steps
* `Session.dispatch_tellsMissing` — and with every command
-/

namespace LineDebugger

namespace Outcome

variable {σ τ ε δ : Type} {ok : σ → Bool} {o : Outcome σ ε} {s : σ} {events : List Event}

/-- The operation tells that a variable was missing exactly if the flag is down after it. -/
def TellsMissing (ok : σ → Bool) (o : Outcome σ ε) : Prop :=
  .variableMissing ∈ o.events ↔ ok o.state = false

theorem TellsMissing.done (hs : ok s) (hevents : .variableMissing ∉ events) :
    (done s events : Outcome σ ε).TellsMissing ok :=
  iff_of_false hevents (by simp [hs])

theorem TellsMissing.quiet (hs : ok s) : (quiet s : Outcome σ ε).TellsMissing ok :=
  .done hs List.not_mem_nil

theorem TellsMissing.fail {error : ε} (hs : ok s) : (fail s error).TellsMissing ok :=
  iff_of_false List.not_mem_nil (by simp [hs])

theorem TellsMissing.after (h : o.TellsMissing ok) (hevents : .variableMissing ∉ events) :
    (o.after events).TellsMissing ok := by
  rw [TellsMissing, after_events, List.mem_append, or_iff_right hevents]
  exact h

/-- Another view of the state shows the same flag, if it is made to. -/
theorem TellsMissing.map {f : σ → τ} {ok' : τ → Bool} (h : o.TellsMissing ok)
    (hf : ∀ s, ok' (f s) = ok s) : (o.map f).TellsMissing ok' := by
  rw [TellsMissing, map_state, hf]
  exact h

/-- One operation after another tells of a missing variable if both do, and the flag stays down. -/
theorem TellsMissing.andThen {next : σ → Outcome σ ε} (h : o.TellsMissing ok)
    (hnext : ∀ s, ok s → (next s).TellsMissing ok)
    (hstays : ∀ s, ok s = false → ok (next s).state = false) :
    (o.andThen next).TellsMissing ok := by
  cases herr : o.error? with
  | some error => rw [andThen_of_error? herr]; exact h
  | none =>
    rw [andThen_of_success herr, TellsMissing, after_events, after_state, List.mem_append]
    cases hok : ok o.state with
    | false => exact iff_of_true (.inl (h.2 hok)) (hstays _ hok)
    | true =>
      have hno : .variableMissing ∉ o.events := by
        intro hmem
        rw [h.1 hmem] at hok
        cases hok
      rw [or_iff_right hno]
      exact hnext _ hok

end Outcome

open Outcome

namespace Interpreter

variable {i : Interpreter}

/-- A statement tells of a missing variable exactly if it puts the flag down. -/
theorem execute_tellsMissing (hok : i.succeeded) (s : Statement) :
    (i.execute s).TellsMissing succeeded := by
  have h := i.execution s
  generalize i.execute s = o at h ⊢
  cases h with
  | missing hop hno => exact iff_of_true (by simp) rfl
  | stored hgives hpos hassign => exact .done hok (by simp)
  | printed hop hno hcurrent => exact .done hok (by simp)
  | removed hop hno hcurrent => exact .done hok (by simp)
  | failed hfault => exact (TellsMissing.fail hok).after (by simp)

/-- A flag that is down stays down. -/
theorem execute_succeeded_of_down (hok : i.succeeded = false) (s : Statement) :
    (i.execute s).state.succeeded = false := by
  have h := i.execution s
  generalize i.execute s = o at h ⊢
  cases h with
  | missing hop hno => rfl
  | stored hgives hpos hassign => exact hok
  | printed hop hno hcurrent => exact hok
  | removed hop hno hcurrent => exact hok
  | failed hfault => exact hok

end Interpreter

namespace Engine

variable {e : Engine}

/-- What puts nothing out does not tell of a missing variable. -/
theorem variableMissing_notMem_of_outputs {events : List Event} (h : outputs events = []) :
    .variableMissing ∉ events := by
  intro hmem
  have hout : missingVariableMessage ∈ outputs events := List.mem_filterMap.2 ⟨_, hmem, rfl⟩
  rw [h] at hout
  cases hout

/-- A step tells of a missing variable exactly if it puts the flag down. -/
theorem step_tellsMissing (hok : e.succeeded) : e.step.TellsMissing succeeded := by
  cases hs : e.statement? with
  | some s =>
    rw [step_of_statement? hs]
    exact (Interpreter.execute_tellsMissing hok s).map fun _ => rfl
  | none =>
    obtain ⟨hsame, hout⟩ := step_of_no_statement hs
    have hup : e.step.state.succeeded := by rw [succeeded, hsame]; exact hok
    exact iff_of_false (variableMissing_notMem_of_outputs hout) (by simp [hup])

theorem step_succeeded_of_down (hok : e.succeeded = false) : e.step.state.succeeded = false := by
  cases hs : e.statement? with
  | some s =>
    rw [step_of_statement? hs]
    exact Interpreter.execute_succeeded_of_down hok s
  | none =>
    rw [succeeded, (step_of_no_statement hs).1]
    exact hok

/-- Steps tell of a missing variable exactly if they put the flag down. -/
theorem steps_tellsMissing (hok : e.succeeded) (n : Nat) : (e.steps n).TellsMissing succeeded := by
  induction n generalizing e with
  | zero => exact .quiet hok
  | succ n ih =>
    refine (step_tellsMissing hok).andThen (fun e he => ih he) ?_
    intro e he
    exact steps_invariant (P := fun e => e.succeeded = false) (fun _ => step_succeeded_of_down) he n

/-- Advancing does nothing once the flag is down, and tells exactly if it puts it down. -/
theorem advance_tellsMissing (halt : Engine → Bool) (hok : e.succeeded) :
    (e.advance halt #[]).TellsMissing succeeded := by
  cases hp : e.program? with
  | none =>
    rw [advance_of_stop (.inl (by simp [idle, hp]))]
    exact .quiet hok
  | some p =>
    obtain ⟨n, hn, -⟩ := advance_eq_steps halt hp
    rw [hn]
    exact steps_tellsMissing hok n

end Engine

namespace Session

variable {s : Session}

/-- Is the flag of the engine up? -/
def succeeded (s : Session) : Bool := s.engine.succeeded

theorem withEngine_tellsMissing {o : Outcome Engine ProgramError}
    (h : o.TellsMissing Engine.succeeded) : (s.withEngine o).TellsMissing succeeded :=
  h.map fun _ => rfl

theorem step_tellsMissing (hok : s.succeeded) : s.step.TellsMissing succeeded := by
  rw [step]
  split
  · exact .done hok (by simp)
  · exact withEngine_tellsMissing (Engine.step_tellsMissing hok)

theorem run_tellsMissing (hok : s.succeeded) : s.run.TellsMissing succeeded := by
  rw [run]
  split
  · exact .done hok (by simp)
  · refine withEngine_tellsMissing (TellsMissing.andThen ?_ ?_ ?_)
    · refine (Engine.step_tellsMissing hok).andThen ?_ ?_
      · intro e he
        exact Engine.advance_tellsMissing _ he
      · intro e he
        rw [Engine.advance_of_stop (.inr (.inl he))]
        exact he
    · intro e he
      split
      · exact .done he (by simp)
      · exact .quiet he
    · intro e he
      split <;> exact he

theorem stepOver_tellsMissing (hok : s.succeeded) : s.stepOver.TellsMissing succeeded := by
  rw [stepOver]
  refine (step_tellsMissing hok).andThen ?_ ?_
  · intro t ht
    split
    · split
      · exact (withEngine_tellsMissing (Engine.advance_tellsMissing _ ht)).after (by simp)
      · exact .quiet ht
    · exact .quiet ht
  · intro t ht
    split
    · split
      · rw [Engine.advance_of_stop (.inr (.inl ht))]
        exact ht
      · exact ht
    · exact ht

/-- A command tells of a missing variable exactly if it puts the flag down. -/
theorem dispatch_tellsMissing (hok : s.succeeded) (line : String) :
    (s.dispatch line).TellsMissing succeeded := by
  rw [dispatch]
  split
  · exact .fail hok
  · exact .done hok (by simp)
  · next c hparse =>
    -- another view of the error leaves state and events alone
    have hperform : (s.perform c).TellsMissing succeeded := by
      cases c with
      | run => exact run_tellsMissing hok
      | step => exact step_tellsMissing hok
      | stepOver => exact stepOver_tellsMissing hok
      | setCode | clearBreakpoints => exact .quiet hok
      | printMemory | printTrace | printBreakpoints | addBreakpoint _ | removeBreakpoint _ =>
        exact .done hok (by simp)
    exact hperform

end Session

end LineDebugger
