import LineDebugger.Proofs.Session.History

/-!
# Driving a program

However a program is driven — by steps, runs and steps over, with breakpoints set and removed in
between — its execution is one and the same. As long as the session does not start over, the
engine stands where some number of single steps lead from the start, and what was put out is what
these steps put out. The number grows with every command that moves the engine and stays the same
with the others. The command that makes the session start over is the one that comes to the ending
of the execution, and all in all it has put out what a run without breakpoints would have.

The number is tracked from command to command (`FollowsTo`). It is not enough to know where the
engine stands: that none of the steps so far came to an ending is what makes the last one the
first to do so, and only then is it the ending of the run.

## Main definitions

* `Command.drives` — the commands that move the engine or change breakpoints
* `Session.FollowsTo` — after some lines, the session is where so many steps lead
* `Session.EndsAt` — with one more line the execution comes to its ending

## Main results

* `Session.drive_follows_steps` — a driven program follows its steps to the ending of a run
-/

namespace LineDebugger

/-- The commands that move the engine or change breakpoints. -/
def Command.drives : Command → Bool
  | run | step | stepOver | addBreakpoint _ | removeBreakpoint _ | clearBreakpoints => true
  | _ => false

namespace Session

/-- A line that is one of these commands. -/
def Driving (line : String) : Prop := ∃ c, Command.parse line = .ok (some c) ∧ c.drives

/-- After these lines the session stands where so many steps lead, short of an ending, and has put
out what they put out. -/
structure FollowsTo (fresh : Session) (lines : List String) (count : Nat) : Prop where
  engine : (fresh.after lines).engine = (fresh.engine.steps count).state
  outputs : fresh.outputsOf lines = outputs (fresh.engine.steps count).events
  running : ∀ j ≤ count, Engine.ending? (fresh.engine.steps j) = none
  awaitingSource : (fresh.after lines).awaitingSource = false

/-- The session without its breakpoints. -/
def withoutBreakpoints (s : Session) : Session := { s with breakpoints := .empty }

/-- After these lines, one more line brings the execution to its ending, with so many steps. It is
the ending of a run without breakpoints, and the output is the output of that run. -/
structure EndsAt (fresh : Session) (lines : List String) (line : String) (count : Nat) : Prop where
  /-- The steps come to an ending, and not earlier. -/
  ending : (Engine.ending? (fresh.engine.steps count)).isSome
  running : ∀ j < count, Engine.ending? (fresh.engine.steps j) = none
  /-- The line comes to the ending of the steps, with the output of the steps. -/
  line_ending : ending? ((fresh.after lines).dispatch line) =
    Engine.ending? (fresh.engine.steps count)
  line_outputs : fresh.outputsOf (lines ++ [line]) = outputs (fresh.engine.steps count).events
  /-- So does a run without breakpoints, which reports the same error if there is one. -/
  run_ending : ending? (fresh.withoutBreakpoints.dispatch "run") =
    Engine.ending? (fresh.engine.steps count)
  run_outputs : outputs (fresh.withoutBreakpoints.execute "run").events =
    fresh.outputsOf (lines ++ [line])
  run_error? : (fresh.withoutBreakpoints.execute "run").error? =
    ((fresh.after lines).execute line).error?

variable {fresh : Session} {p : Program} {lines : List String} {line : String} {k : Nat}

/-! ### Runs without breakpoints -/

/-- A run without breakpoints makes all steps to the first ending. -/
theorem run_reflects_ending {n : Nat} (hp : fresh.engine.program? = some p)
    (hend : (Engine.ending? (fresh.engine.steps n)).isSome)
    (hbefore : ∀ j < n, Engine.ending? (fresh.engine.steps j) = none)
    (hstart : Engine.ending? (fresh.engine.steps 0) = none) :
    Reflects fresh.withoutBreakpoints fresh.withoutBreakpoints.run (fresh.engine.steps n) := by
  have hreflects := run_reflects (s := fresh.withoutBreakpoints) hp
  cases n with
  | zero =>
    rw [hstart] at hend
    cases hend
  | succ n =>
    have hgo : (fresh.engine.go fun e => fresh.withoutBreakpoints.breakpoints.contains e.cursor) =
        fresh.engine.steps (n + 1) :=
      Engine.go_eq_steps_of_first hp (.inl hend) fun j hj =>
        ⟨hbefore (j + 1) (by omega), Breakpoints.contains_empty _⟩
    rw [← hgo]
    exact hreflects

/-! ### One more line -/

/-- A command that does not move the engine stays where it is. -/
theorem FollowsTo.stay {c : Command} (h : FollowsTo fresh lines k)
    (hparse : Command.parse line = .ok (some c)) (hdrives : c.drives) (hmoves : c.moves = false) :
    (fresh.after lines).resets line = false ∧ FollowsTo fresh (lines ++ [line]) k := by
  have hnone : Engine.ending? (fresh.engine.steps k) = none := h.running k (Nat.le_refl k)
  have hended : (fresh.after lines).engine.ended? = none := by
    rw [h.engine, Engine.ended?_eq_none_iff]
    exact (Engine.ending?_eq_none_iff.1 hnone).2
  -- none of these commands touches the engine, fails, waits for a program or puts anything out
  have hquiet : ((fresh.after lines).outcome c).state.engine = (fresh.after lines).engine ∧
      ((fresh.after lines).outcome c).error? = none ∧
        ((fresh.after lines).outcome c).state.awaitingSource =
            (fresh.after lines).awaitingSource ∧
          LineDebugger.outputs ((fresh.after lines).outcome c).events = [] := by
    cases c with
    | addBreakpoint _ | removeBreakpoint _ | clearBreakpoints => exact ⟨rfl, rfl, rfl, rfl⟩
    | run | step | stepOver => cases hmoves
    | _ => cases hdrives
  obtain ⟨hengine, herror, hawaiting, hout⟩ := hquiet
  have hending : Session.ending? ((fresh.after lines).outcome c) = none := by
    rw [Session.ending?, herror, hengine]
    exact hended
  have hexecute := execute_of_parse h.awaitingSource hparse
  rw [settle_of_no_ending hending] at hexecute
  refine ⟨by rw [resets_of_parse h.awaitingSource hparse, hending]; rfl, ?_, ?_, h.running, ?_⟩
  · rw [after_append_singleton, hexecute, hengine, h.engine]
  · rw [outputsOf_append_singleton, hexecute, hout, List.append_nil, h.outputs]
  · rw [after_append_singleton, hexecute, hawaiting, h.awaitingSource]

/-- The steps that a command makes are steps of the execution, and none before the last of them
comes to an ending. -/
theorem FollowsTo.exists_steps {c : Command} (h : FollowsTo fresh lines k)
    (hp : fresh.engine.program? = some p) (hmoves : c.moves) :
    ∃ d, Reflects (fresh.after lines) ((fresh.after lines).perform c)
        ((fresh.after lines).engine.steps (d + 1)) ∧
      fresh.engine.steps (k + (d + 1)) =
          ((fresh.after lines).engine.steps (d + 1)).after (fresh.engine.steps k).events ∧
        ∀ j < k + (d + 1), Engine.ending? (fresh.engine.steps j) = none := by
  have hsucc : (fresh.engine.steps k).error? = none :=
    (Engine.ending?_eq_none_iff.1 (h.running k (Nat.le_refl k))).1
  have hsteps : ∀ j, fresh.engine.steps (k + j) =
      ((fresh.after lines).engine.steps j).after (fresh.engine.steps k).events := by
    intro j
    rw [Engine.steps_add_of_success hsucc, h.engine]
  have hp' : (fresh.after lines).engine.program? = some p := by
    rw [h.engine, Engine.steps_program?, hp]
  obtain ⟨d, hreflects, hbefore⟩ := perform_reflects_steps hp' hmoves
  refine ⟨d, hreflects, hsteps (d + 1), ?_⟩
  intro j hj
  rcases Nat.lt_or_ge k j with hlt | hge
  · obtain ⟨i, rfl⟩ := Nat.exists_eq_add_of_lt hlt
    rw [Nat.add_assoc, hsteps, Engine.ending?_after]
    exact hbefore i (by omega)
  · exact h.running j hge

/-- A command that moves the engine leads some steps further, or to the ending. -/
theorem FollowsTo.move {c : Command} (h : FollowsTo fresh lines k)
    (ha : fresh.awaitingSource = false) (hp : fresh.engine.program? = some p)
    (hparse : Command.parse line = .ok (some c)) (hmoves : c.moves) :
    ∃ n, k < n ∧
      ((fresh.after lines).resets line = false → FollowsTo fresh (lines ++ [line]) n) ∧
        ((fresh.after lines).resets line → EndsAt fresh lines line n) := by
  obtain ⟨d, hreflects, hsteps, hrunning⟩ := h.exists_steps hp hmoves
  have hending : Engine.ending? ((fresh.after lines).engine.steps (d + 1)) =
      Engine.ending? (fresh.engine.steps (k + (d + 1))) := by
    rw [hsteps, Engine.ending?_after]
  have houtputs : fresh.outputsOf (lines ++ [line]) =
      LineDebugger.outputs (fresh.engine.steps (k + (d + 1))).events := by
    rw [outputsOf_append_singleton, execute_of_parse h.awaitingSource hparse, outputs_settle,
      hsteps, Outcome.after_events, outputs_append, h.outputs]
    exact congrArg _ hreflects.outputs
  refine ⟨k + (d + 1), by omega, ?_, ?_⟩
  · intro hno
    have hnone := ending?_eq_none_of_reflects h.awaitingSource hparse hreflects hno
    have hexecute := execute_of_reflects h.awaitingSource hparse hreflects hnone
    refine ⟨?_, houtputs, ?_, ?_⟩
    · rw [after_append_singleton, hexecute.2, hsteps]
      rfl
    · intro j hj
      rcases Nat.lt_or_eq_of_le hj with hlt | rfl
      · exact hrunning j hlt
      · rw [← hending, hnone]
    · rw [after_append_singleton, hexecute.2]
      exact h.awaitingSource
  · intro hyes
    rw [resets_of_reflects h.awaitingSource hparse hreflects, hending] at hyes
    have hrun := run_reflects_ending hp hyes hrunning (h.running 0 (Nat.zero_le k))
    have hawaiting : fresh.withoutBreakpoints.awaitingSource = false := ha
    have hparse' : Command.parse "run" = .ok (some .run) := rfl
    refine ⟨hyes, hrunning, ?_, houtputs, ?_, ?_, ?_⟩
    · rw [dispatch_of_parse hparse, ← hending]
      exact hreflects.ending?
    · rw [dispatch_of_parse hparse']
      exact hrun.ending?
    · rw [execute_of_parse hawaiting hparse', outputs_settle, houtputs]
      exact hrun.outputs
    · rw [execute_of_parse hawaiting hparse', execute_of_parse h.awaitingSource hparse,
        settle_error?, settle_error?, outcome_error?, outcome_error?, hreflects.error?]
      have hlast := congrArg Outcome.error? hsteps
      exact congrArg _ (hrun.error?.trans hlast)

/-! ### All lines -/

/-- The number of steps is determined by where the session is. -/
theorem FollowsTo.unique {k' : Nat} (hp : fresh.engine.program? = some p)
    (h : FollowsTo fresh lines k) (h' : FollowsTo fresh lines k') : k = k' := by
  have hsame : (fresh.engine.steps k).state.remaining =
      (fresh.engine.steps k').state.remaining := by
    rw [← h.engine, ← h'.engine]
  rcases Nat.lt_trichotomy k k' with hlt | heq | hgt
  · have := Engine.remaining_steps_lt hp hlt h'.running
    omega
  · exact heq
  · have := Engine.remaining_steps_lt hp hgt h.running
    omega

/-- Before the first line no step is made. -/
theorem FollowsTo.nil (ha : fresh.awaitingSource = false)
    (hstart : Engine.ending? (fresh.engine.steps 0) = none) : FollowsTo fresh [] 0 where
  engine := rfl
  outputs := rfl
  running j hj := by rwa [Nat.le_zero.1 hj]
  awaitingSource := ha

/-- Whatever commands drive the program, some number of steps is followed. -/
theorem exists_followsTo (ha : fresh.awaitingSource = false) (hp : fresh.engine.program? = some p)
    (hstart : Engine.ending? (fresh.engine.steps 0) = none) (hdrive : ∀ line ∈ lines, Driving line)
    (hgoing : fresh.keepsGoing lines) : ∃ k, FollowsTo fresh lines k := by
  induction lines using List.reverseRecOn with
  | nil => exact ⟨0, .nil ha hstart⟩
  | append_singleton lines line ih =>
    simp only [keepsGoing_append_singleton, Bool.and_eq_true, Bool.not_eq_true'] at hgoing
    obtain ⟨k, hk⟩ := ih (fun l hl => hdrive l (List.mem_append_left _ hl)) hgoing.1
    obtain ⟨c, hparse, hc⟩ := hdrive line (by simp)
    cases hmoves : c.moves with
    | false => exact ⟨k, (hk.stay hparse hc hmoves).2⟩
    | true =>
      obtain ⟨n, -, hn, -⟩ := hk.move ha hp hparse hmoves
      exact ⟨n, hn hgoing.2⟩

open Classical in
/-- The number of steps that these lines make. -/
noncomputable def stepCount (fresh : Session) (lines : List String) : Nat :=
  if h : ∃ k, FollowsTo fresh lines k then choose h else 0

theorem FollowsTo.stepCount_eq (hp : fresh.engine.program? = some p)
    (h : FollowsTo fresh lines k) : fresh.stepCount lines = k := by
  have hex : ∃ k, FollowsTo fresh lines k := ⟨k, h⟩
  rw [stepCount, dif_pos hex]
  exact (Classical.choose_spec hex).unique hp h

/-- **A driven program follows its steps.** After a program with at least one line was loaded, and
as long as the session does not start over, commands lead where single steps lead, further with
each command that moves the engine. The first to make the session start over is the one that comes
to the ending of the steps, which is the ending of a run without breakpoints. -/
theorem drive_follows_steps (s : Session) (source : String) (hsource : sourceLines source ≠ [])
    (ha : s.awaitingSource = false) :
    let fresh := (s.load source).state
    ∃ count : List String → Nat, count [] = 0 ∧
      ∀ lines, (∀ line ∈ lines, Driving line) → fresh.keepsGoing lines →
        FollowsTo fresh lines (count lines) ∧
          ∀ line c, Command.parse line = .ok (some c) → c.drives →
            if (fresh.after lines).resets line then
              c.moves ∧ ∃ n, count lines < n ∧ EndsAt fresh lines line n
            else if c.moves then count lines < count (lines ++ [line])
            else count (lines ++ [line]) = count lines := by
  intro fresh
  have hp : fresh.engine.program? = some (.ofSource source) := rfl
  have hfresh : fresh.awaitingSource = false := ha
  have hstart : Engine.ending? (fresh.engine.steps 0) = none := by
    refine Engine.ending?_eq_none_iff.2 ⟨rfl, rfl, Engine.atEnd_of_cursor_lt hp ?_⟩
    exact List.length_pos_iff.2 hsource
  refine ⟨fresh.stepCount, (FollowsTo.nil hfresh hstart).stepCount_eq hp, ?_⟩
  intro lines hdrive hgoing
  obtain ⟨k, hk⟩ := exists_followsTo hfresh hp hstart hdrive hgoing
  rw [hk.stepCount_eq hp]
  refine ⟨hk, ?_⟩
  intro line c hparse hc
  cases hmoves : c.moves with
  | false =>
    obtain ⟨hno, hstay⟩ := hk.stay hparse hc hmoves
    rw [hno]
    exact hstay.stepCount_eq hp
  | true =>
    obtain ⟨n, hlt, hgo, hends⟩ := hk.move hfresh hp hparse hmoves
    cases hresets : (fresh.after lines).resets line with
    | false =>
      rw [← (hgo hresets).stepCount_eq hp] at hlt
      exact hlt
    | true => exact ⟨rfl, n, hlt, hends hresets⟩

/-- A step leads to a breakpoint on the last line, and a step over from there to the ending. -/
theorem drive_to_last_line :
    let fresh := ((initial 4).load "set a 1\nprint a").state
    sourceLines "set a 1\nprint a" ≠ [] ∧ (initial 4).awaitingSource = false ∧
      ∃ n, EndsAt fresh ["add break 1", "step"] "step over" n := by
  have hsource : sourceLines "set a 1\nprint a" ≠ [] := by decide
  obtain ⟨count, -, h⟩ := drive_follows_steps (initial 4) _ hsource rfl
  refine ⟨hsource, rfl, ?_⟩
  have hdrive : ∀ line ∈ ["add break 1", "step"], Driving line := by
    simp only [List.mem_cons, List.not_mem_nil, or_false, forall_eq_or_imp, forall_eq]
    exact ⟨⟨.addBreakpoint 1, rfl, rfl⟩, ⟨.step, rfl, rfl⟩⟩
  have hlast := (h _ hdrive (by decide)).2 "step over" .stepOver rfl rfl
  rw [if_pos (by decide)] at hlast
  obtain ⟨-, n, -, hn⟩ := hlast
  exact ⟨n, hn⟩

end Session

end LineDebugger
