import LineDebugger.Proofs.Engine.Termination
import LineDebugger.Proofs.Session.History

/-!
# A run is a number of single steps

A run is one command with a loop in it, and between the steps of the loop nothing is asked but
whether to go on. A user who types `step` again and again has every one of these steps dispatched,
and followed by the question whether the session starts over. That both come to the same is not
quite plain: the session starts over once in a run, at its end, but it could do so after any of the
single steps, and whoever goes on typing after that steps through the program from its start.

What settles it is that the loop and the session look for the same endings. The loop leaves off
after the first step with an ending, or with the cursor on a breakpoint. Until then none of the
single steps makes the session start over, and the last one of them makes it do so exactly if the
run does. Which step is the last is told here without the loop: it is the first that fails, makes
the session start over, or leaves the cursor on a breakpoint. The breakpoints are not asked about
the line that the run sets out from.

## Main definitions

* `Session.stepped` — the session after so many single steps
* `Session.StopsAt` — a single step after which a run leaves off

## Main results

* `Session.stopsAt_iff` — single steps stop where the loop stops
* `Session.run_eq_single_steps` — a run is the single steps up to the first one to stop at
-/

namespace LineDebugger

namespace Session

variable {s : Session} {p : Program}

/-- The session after so many single steps. -/
def stepped (s : Session) (n : Nat) : Session := s.after (List.replicate n "step")

theorem stepped_succ (s : Session) (n : Nat) :
    s.stepped (n + 1) = ((s.stepped n).execute "step").state := by
  rw [stepped, List.replicate_succ', after_append_singleton]
  rfl

/-- After `n` single steps, the next one fails, makes the session start over, or leaves the cursor
on a breakpoint. -/
def StopsAt (s : Session) (n : Nat) : Prop :=
  ((s.stepped n).execute "step").error?.isSome ∨ (s.stepped n).resets "step" ∨
    s.breakpoints.contains (s.stepped (n + 1)).engine.cursor

instance (s : Session) (n : Nat) : Decidable (s.StopsAt n) :=
  inferInstanceAs (Decidable (_ ∨ _ ∨ _))

/-- If single steps have led where steps of the engine lead, so does the next one, and the session
starts over if the execution has come to an ending. -/
theorem next_single_step {n : Nat} (ha : s.awaitingSource = false)
    (hp : s.engine.program? = some p) (herr : (s.engine.steps n).error? = none)
    (hstate : s.stepped n = { s with engine := (s.engine.steps n).state }) :
    let o := s.engine.steps (n + 1)
    s.stepped (n + 1) =
        { s with
          engine := if (Engine.ending? o).isSome then o.state.restarted else o.state } ∧
      ((s.stepped n).execute "step").error? = o.error?.map .program ∧
        (s.stepped n).resets "step" = (Engine.ending? o).isSome ∧
          outputs o.events = outputs (s.engine.steps n).events ++
            outputs ((s.stepped n).execute "step").events := by
  intro o
  have ho : o = (s.stepped n).engine.step.after (s.engine.steps n).events := by
    rw [hstate]
    exact Engine.step_of_steps herr
  have hp' : (s.stepped n).engine.program? = some p := by
    rw [hstate]
    exact (Engine.steps_program? n s.engine).trans hp
  have ha' : (s.stepped n).awaitingSource = false := by rw [hstate]; exact ha
  have hparse : Command.parse "step" = .ok (some .step) := rfl
  have hreflects := step_reflects hp'
  obtain ⟨hnext, herror, hout⟩ := execute_eq_of_reflects ha' hparse hreflects
  rw [stepped_succ, hnext, herror, hout, resets_of_reflects ha' hparse hreflects, ho,
    Engine.ending?_after, Outcome.after_error?, Outcome.after_events, outputs_append,
    Outcome.after_state]
  refine ⟨?_, rfl, rfl, rfl⟩
  rw [hstate]

/-- As long as the execution goes on, single steps are steps of the engine, and put out what these
put out. -/
theorem stepped_eq {n : Nat} (ha : s.awaitingSource = false) (hp : s.engine.program? = some p)
    (hgoing : ∀ j < n, Engine.ending? (s.engine.steps (j + 1)) = none) :
    s.stepped n = { s with engine := (s.engine.steps n).state } ∧
      s.outputsOf (List.replicate n "step") = outputs (s.engine.steps n).events := by
  induction n with
  | zero => exact ⟨rfl, rfl⟩
  | succ n ih =>
    have hbefore : ∀ j < n, Engine.ending? (s.engine.steps (j + 1)) = none :=
      fun j hj => hgoing j (Nat.lt_succ_of_lt hj)
    obtain ⟨hstate, hout⟩ := ih hbefore
    obtain ⟨hnext, -, -, hmore⟩ :=
      next_single_step ha hp (Engine.steps_error?_of_going hbefore) hstate
    rw [hgoing n (Nat.lt_succ_self n)] at hnext
    refine ⟨hnext, ?_⟩
    rw [List.replicate_succ', outputsOf_append_singleton, hout, hmore]
    rfl

/-- Single steps stop where the loop of a run stops. -/
theorem stopsAt_iff {n : Nat} (ha : s.awaitingSource = false) (hp : s.engine.program? = some p)
    (hgoing : ∀ j < n, Engine.ending? (s.engine.steps (j + 1)) = none) :
    s.StopsAt n ↔ (Engine.ending? (s.engine.steps (n + 1))).isSome ∨
      s.breakpoints.contains (s.engine.steps (n + 1)).state.cursor := by
  obtain ⟨hstate, -⟩ := stepped_eq ha hp hgoing
  obtain ⟨hnext, herror, hresets, -⟩ :=
    next_single_step ha hp (Engine.steps_error?_of_going hgoing) hstate
  rw [StopsAt, herror, hresets, hnext, Option.isSome_map]
  cases hending : Engine.ending? (s.engine.steps (n + 1)) with
  | none =>
    rw [(Engine.ending?_eq_none_iff.1 hending).1]
    simp
  | some ending => simp

/-- **A run is repeated steps.** A run leaves the session where single steps leave it, with the same
output and the same error, if there is one. The number of these steps is at least one, and it is the
least after which the last of them has failed, has made the session start over, or has left the
cursor on a breakpoint. If the run neither fails nor makes the session start over, the cursor is on
a breakpoint, and the session has got on. -/
theorem run_eq_single_steps (ha : s.awaitingSource = false) (hp : s.engine.program? = some p) :
    ∃ n, s.StopsAt n ∧ (∀ j < n, ¬s.StopsAt j) ∧
      (s.execute "run").state = s.stepped (n + 1) ∧
        outputs (s.execute "run").events = s.outputsOf (List.replicate (n + 1) "step") ∧
          (s.execute "run").error? = ((s.stepped n).execute "step").error? ∧
            s.resets "run" = (s.stepped n).resets "step" ∧
              ((s.execute "run").error? = none → s.resets "run" = false →
                s.breakpoints.contains (s.execute "run").state.engine.cursor ∧
                  (s.execute "run").state.engine.position ≠ s.engine.position) := by
  have hparse : Command.parse "run" = .ok (some .run) := rfl
  obtain ⟨n, hgo, hstop, hbefore⟩ :=
    Engine.go_eq_steps (fun e => s.breakpoints.contains e.cursor) hp
  have hgoing : ∀ j < n, Engine.ending? (s.engine.steps (j + 1)) = none :=
    fun j hj => (hbefore j hj).1
  obtain ⟨hstate, hout⟩ := stepped_eq ha hp hgoing
  obtain ⟨hnext, herror, hresets, hmore⟩ :=
    next_single_step ha hp (Engine.steps_error?_of_going hgoing) hstate
  have hreflects := run_reflects hp
  rw [hgo] at hreflects
  obtain ⟨hrun, hfails, hshown⟩ := execute_eq_of_reflects ha hparse hreflects
  have hstarts := resets_of_reflects ha hparse hreflects
  refine ⟨n, (stopsAt_iff ha hp hgoing).2 hstop, ?_, hrun.trans hnext.symm, ?_,
    hfails.trans herror.symm, hstarts.trans hresets.symm, ?_⟩
  · intro j hj hstops
    obtain ⟨hending, hbreak⟩ := hbefore j hj
    rcases (stopsAt_iff ha hp fun i hi => hgoing i (Nat.lt_trans hi hj)).1 hstops with h | h
    · rw [hending] at h
      cases h
    · exact absurd (hbreak.symm.trans h) Bool.false_ne_true
  · rw [hshown, hmore, List.replicate_succ', outputsOf_append_singleton, hout]
    rfl
  · intro _ hstays
    rw [hstarts] at hstays
    have hnone : Engine.ending? (s.engine.steps (n + 1)) = none := by
      simpa using hstays
    rw [hrun, hnone]
    refine ⟨hstop.resolve_left (by simp [hnone]), Engine.position_steps_ne hp ?_⟩
    intro j hj
    rcases Nat.lt_or_eq_of_le hj with hlt | rfl
    · exact hgoing j hlt
    · exact hnone

/-- A function is called twice, and the session is on a breakpoint in the first of the calls. -/
def pausedInFirstCall : Session :=
  ((((initial 4).load "set a 1\ncall f\ncall f\ndef f\n    print a").state.execute
    "add break 4").state.execute "run").state

/-- The run makes four steps, to the same line in the second call. -/
theorem pausedInFirstCall_run :
    Reachable 4 pausedInFirstCall ∧ pausedInFirstCall.awaitingSource = false ∧
      pausedInFirstCall.breakpoints.contains pausedInFirstCall.engine.cursor ∧
        pausedInFirstCall.engine.stack = [⟨"f", 1⟩] ∧
          (pausedInFirstCall.execute "run").state = pausedInFirstCall.stepped 4 ∧
            (pausedInFirstCall.stepped 4).engine.stack = [⟨"f", 2⟩] := by
  have h : Reachable 4 pausedInFirstCall := .execute _ (.execute _ (.load _ .initial))
  obtain ⟨p, hp⟩ : ∃ p, pausedInFirstCall.engine.program? = some p :=
    Option.isSome_iff_exists.1 (by decide +kernel)
  have ha : pausedInFirstCall.awaitingSource = false := by decide +kernel
  obtain ⟨n, hstops, hfirst, hrun, -⟩ := run_eq_single_steps ha hp
  have hn : n = 3 := by
    rcases Nat.lt_trichotomy n 3 with hlt | heq | hgt
    · have hno : ∀ j < 3, ¬pausedInFirstCall.StopsAt j := by decide +kernel
      exact absurd hstops (hno n hlt)
    · exact heq
    · exact absurd (by decide +kernel) (hfirst 3 hgt)
  rw [hn] at hrun
  exact ⟨h, ha, by decide +kernel, by decide +kernel, hrun, by decide +kernel⟩

end Session

end LineDebugger
