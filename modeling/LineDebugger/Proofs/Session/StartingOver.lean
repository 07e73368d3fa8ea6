import LineDebugger.Proofs.Session.History
import LineDebugger.Proofs.Session.MissingVariable

/-!
# Starting over

A session starts over on its own when the execution of its program has come to an ending. It asks
after every command, and of the state that the command left, whether the program failed, is over,
or missed a variable; all three are answered by looking at the engine and the error. What it is
after that is what loading the same program again would make of it, the breakpoints included.

So a session never rests in between. After every line the flag is up, the program is over only if
it has no lines at all, and an engine at the start has no variables. The last of these is a fact
about moves: none of them leads to the start, so whoever is there has not moved yet.

A program without lines is over before it has begun, and the session starts over after every
command, even one that is not about the program. This changes nothing, because it is at the start
already.

## Main definitions

* `Engine.Settled` — an engine between commands
* `Session.Concludes` — the line is a command that brings the execution to an ending

## Main results

* `Position.Move.ne_start` — no move leads to the start
* `Session.Reachable.settled` — after every line the engine is settled
* `Session.concludes_iff_resets` — a session starts over exactly when the execution ends
* `Session.Reachable.starts_over` — and is then as if the program had just been loaded
-/

namespace LineDebugger

/-- No move leads to the start of a program. -/
theorem Position.Move.ne_start {p : Program} {a b : Position} (h : Move p a b) : b ≠ ⟨[], 0⟩ := by
  cases h with
  | header hh => simp
  | @skip stack index name hr hl =>
    have hle := p.le_blockEnd (index + 1)
    intro hstart
    have hcursor : p.blockEnd (index + 1) = 0 := congrArg cursor hstart
    omega
  | enter hr hl hd => simp
  | statement hr hl => simp
  | leave hh hb => simp [Frame.returnLine]

namespace Engine

variable {limit : Nat} {e e' : Engine} {p : Program}

/-- An engine at the start has no variables. -/
theorem Reachable.memory_at_start (h : Reachable limit e) :
    e.position = ⟨[], 0⟩ → e.interpreter.memory = .empty := by
  induction h with
  | initial => intro _; rfl
  | load source h ih => intro _; rfl
  | reset h ih => intro _; rfl
  | @step e h ih =>
    intro hstart
    cases hp : e.program? with
    | none => rw [step_of_no_program hp] at hstart ⊢; exact ih hstart
    | some p =>
      cases hend : e.atEnd with
      | true => rw [step_of_atEnd hp hend] at hstart ⊢; exact ih hstart
      | false =>
        rcases move_or_fail_of_step hp hend with hm | ⟨error, hf⟩
        · exact absurd hstart hm.ne_start
        · rw [hf] at hstart ⊢
          exact ih hstart

/-- Starting over is loading the same program again. -/
theorem restarted_eq_load {source : String} (hp : e.program? = some (.ofSource source))
    (hprogram : e'.program? = e.program?) (hlimit : e'.depthLimit = e.depthLimit) :
    e'.restarted = (e.load source).state := by
  rw [hp] at hprogram
  simp only [restarted, load, hprogram, hlimit, Outcome.done_state]

/-- An engine between commands: no variable was missing, the program is not over unless it has no
lines, and at the start there are no variables. -/
structure Settled (e : Engine) : Prop where
  succeeded : e.succeeded
  empty_of_atEnd : e.atEnd → ∃ p, e.program? = some p ∧ p.size = 0
  memory_at_start : e.stack = [] → e.cursor = 0 → e.interpreter.memory = .empty

theorem settled_restarted (e : Engine) : e.restarted.Settled where
  succeeded := rfl
  empty_of_atEnd := by
    intro hend
    cases hp : e.program? with
    | none => simp [atEnd, restarted, hp] at hend
    | some p =>
      have hover := (atEnd_iff (e := e.restarted) hp).1 hend
      exact ⟨p, hp, Nat.le_zero.1 hover.1⟩
  memory_at_start _ _ := rfl

end Engine

namespace Session

variable {limit : Nat} {s : Session} {line : String} {c : Command}

/-! ### Between commands -/

/-- A command leaves the engine where loads, resets and steps lead. -/
theorem Reachable.dispatch (h : Reachable limit s) (line : String) :
    (s.dispatch line).state.engine.Reachable limit := by
  obtain ⟨n, hn⟩ := dispatch_engine s line
  rw [hn]
  exact h.engine.steps n

/-- After every line the engine is settled. -/
theorem Reachable.settled (h : Reachable limit s) : s.engine.Settled := by
  induction h with
  | initial => exact ⟨rfl, fun hend => absurd hend Bool.false_ne_true, fun _ _ => rfl⟩
  | load source h ih => exact Engine.settled_restarted _
  | @execute s line h ih =>
    rw [Session.execute]
    split
    · exact ih
    · split
      · exact Engine.settled_restarted _
      · rw [settle]
        split
        · exact Engine.settled_restarted _
        · next hgoing =>
          -- nothing asked to start over, and the start has not been reached by a move
          simp only [endsRun, Bool.or_eq_true, Bool.not_eq_true', not_or, Bool.not_eq_true,
            Bool.not_eq_false] at hgoing
          refine ⟨hgoing.2, fun hend => absurd (hgoing.1.2.symm.trans hend) Bool.false_ne_true, ?_⟩
          intro hs hc
          exact (h.dispatch line).memory_at_start (Position.ext hs hc)

/-! ### Endings -/

/-- The line is a command, and with it the execution has come to an ending: the program failed, a
variable was missing, or the program is over. -/
def Concludes (s : Session) (line : String) : Prop :=
  line ≠ "" ∧ s.awaitingSource = false ∧
    ((∃ error, (s.execute line).error? = some (.program error)) ∨
      .variableMissing ∈ (s.execute line).events ∨ (s.dispatch line).state.engine.atEnd)

theorem variableMissing_mem_settle (o : Outcome Session CommandError) :
    .variableMissing ∈ (settle o).events ↔ .variableMissing ∈ o.events := by
  rw [settle]
  split <;> simp

/-- A command that moves the engine tells of a missing variable exactly if the engine missed one. -/
theorem variableMissing_iff_of_reflects {m : Outcome Engine ProgramError} (hok : s.engine.succeeded)
    (ha : s.awaitingSource = false) (hparse : Command.parse line = .ok (some c))
    (h : Reflects s (s.perform c) m) :
    .variableMissing ∈ (s.execute line).events ↔ m.state.succeeded = false := by
  have hmissing : .variableMissing ∈ (s.dispatch line).events ↔
      (s.dispatch line).state.succeeded = false := dispatch_tellsMissing hok line
  have hstate : (s.outcome c).state = { s with engine := m.state } := h.state
  rw [execute_of_ne_empty (ne_empty_of_parse hparse) ha, variableMissing_mem_settle, hmissing,
    dispatch_of_parse hparse, hstate]
  rfl

theorem any_isProgram_iff {error? : Option CommandError} :
    error?.any CommandError.isProgram ↔ ∃ error, error? = some (.program error) := by
  rcases error? with _ | (error | command) <;> simp [CommandError.isProgram]

/-- A session starts over exactly when the execution has come to an ending. -/
theorem concludes_iff_resets (hok : s.engine.succeeded) : s.Concludes line ↔ s.resets line := by
  simp only [Concludes, resets, Bool.and_eq_true, Bool.not_eq_true', bne_iff_ne, and_assoc]
  refine and_congr_right fun hline => and_congr_right fun ha => ?_
  have hmissing : .variableMissing ∈ (s.dispatch line).events ↔
      (s.dispatch line).state.succeeded = false := dispatch_tellsMissing hok line
  rw [execute_of_ne_empty hline ha, settle_error?, variableMissing_mem_settle, hmissing,
    ← any_isProgram_iff, endsRun, Bool.or_eq_true, Bool.or_eq_true, Bool.not_eq_true', or_assoc,
    or_comm (a := (s.dispatch line).state.succeeded = false)]
  rfl

/-- A line that makes no steps leaves the engine alone, and is no failure of a program. -/
theorem dispatch_of_still
    (h : ∀ c, Command.parse line = .ok (some c) → c.moves → s.engine.program? = none) :
    (s.dispatch line).state.engine = s.engine ∧
      ∀ error, (s.dispatch line).error? ≠ some (.program error) := by
  rw [dispatch]
  split
  · next error hparse =>
    obtain ⟨-, rfl⟩ := Command.parse_eq_invalid_iff.1 hparse
    exact ⟨rfl, by simp⟩
  · exact ⟨rfl, by simp⟩
  · next c hparse =>
    cases hmoves : c.moves with
    | true =>
      obtain ⟨event, -, hperform⟩ := perform_of_no_program (h c hparse hmoves) hmoves
      rw [hperform]
      exact ⟨rfl, by simp [Outcome.mapError]⟩
    | false =>
      cases c with
      | run | step | stepOver => cases hmoves
      | _ => exact ⟨rfl, by simp [perform, Outcome.mapError]⟩

/-- A line is a command that makes steps, or leaves the engine alone and is no failure of the
program. -/
theorem moves_or_still (s : Session) (line : String) :
    (∃ c p, Command.parse line = .ok (some c) ∧ c.moves ∧ s.engine.program? = some p) ∨
      (s.dispatch line).state.engine = s.engine ∧
        ∀ error, (s.dispatch line).error? ≠ some (.program error) := by
  by_contra hno
  obtain ⟨hmoves, hstill⟩ := not_or.1 hno
  refine hstill (dispatch_of_still ?_)
  intro c hparse hc
  by_contra hp
  obtain ⟨p, hp⟩ := Option.ne_none_iff_exists'.1 hp
  exact hmoves ⟨c, p, hparse, hc, hp⟩

/-- A session starts over only with a command that makes steps, unless the program is over before
the command. -/
theorem moves_of_resets (hsettled : s.engine.Settled) (hresets : s.resets line) :
    s.engine.atEnd ∨ ∃ c p, Command.parse line = .ok (some c) ∧ c.moves ∧
      s.engine.program? = some p := by
  rcases moves_or_still s line with hmoves | ⟨hengine, herr⟩
  · exact .inr hmoves
  · rw [resets, endsRun, hengine, hsettled.succeeded] at hresets
    simp only [Bool.and_eq_true, Bool.or_eq_true, any_isProgram_iff, Bool.not_true] at hresets
    rcases hresets.2 with (⟨error, hfailed⟩ | hover) | hdown
    · exact absurd hfailed (herr error)
    · exact .inl hover
    · cases hdown

/-- A command that makes steps does nothing to the session but move its engine. -/
theorem dispatch_state_of_moves {p : Program} (hp : s.engine.program? = some p)
    (hparse : Command.parse line = .ok (some c)) (hc : c.moves) :
    (s.dispatch line).state = { s with engine := (s.dispatch line).state.engine } := by
  obtain ⟨n, hreflects, -⟩ := perform_reflects_steps hp hc
  rw [dispatch_of_parse hparse]
  exact hreflects.state.trans (by rw [outcome, Outcome.mapError, hreflects.state])

/-- **A session starts over as if its program had just been loaded.** After every line the session
is settled. If the line is a command with which the execution comes to an ending, a failure of the
program, a missing variable or the end, the engine is then what loading the same program would make
of it, and nothing else is changed that the command itself did not change. A command that makes
steps, or that finds the program not yet over, changes nothing else: the session with its
breakpoints is then what loading the program would make of it. -/
theorem Reachable.starts_over (h : Reachable limit s) (line : String) :
    s.engine.Settled ∧
      (s.Concludes line → ∃ source, s.engine.program? = some (.ofSource source) ∧
        (s.execute line).state =
            { (s.dispatch line).state with engine := (s.engine.load source).state } ∧
          (s.engine.atEnd = false ∨ (∃ c, Command.parse line = .ok (some c) ∧ c.moves) →
            (s.execute line).state = (s.load source).state)) := by
  refine ⟨h.settled, ?_⟩
  intro hconcludes
  have hresets := (concludes_iff_resets h.settled.succeeded).1 hconcludes
  obtain ⟨hline, ha, -⟩ := hconcludes
  -- only with a program there is anything to come to an ending
  obtain ⟨p, hp⟩ : ∃ p, s.engine.program? = some p := by
    rcases moves_of_resets h.settled hresets with hover | ⟨c, p, -, -, hp⟩
    · obtain ⟨p, hp, -⟩ := h.settled.empty_of_atEnd hover
      exact ⟨p, hp⟩
    · exact ⟨p, hp⟩
  obtain ⟨source, rfl⟩ := h.engine.exists_source hp
  obtain ⟨n, hn⟩ := dispatch_engine s line
  have hload : (s.dispatch line).state.engine.restarted = (s.engine.load source).state := by
    rw [hn]
    exact Engine.restarted_eq_load hp (by simp) (by simp)
  have hstate : (s.execute line).state =
      { (s.dispatch line).state with engine := (s.engine.load source).state } := by
    have hends : endsRun (s.dispatch line) := by
      simp only [resets, Bool.and_eq_true] at hresets
      exact hresets.2
    rw [execute_of_ne_empty hline ha, settle, if_pos hends, ← hload]
  refine ⟨source, hp, hstate, ?_⟩
  intro hmoves
  obtain ⟨c, hparse, hc⟩ : ∃ c, Command.parse line = .ok (some c) ∧ c.moves := by
    rcases hmoves with hend | hmoves
    · rcases moves_of_resets h.settled hresets with hover | ⟨c, p, hparse, hc, -⟩
      · exact absurd (hend.symm.trans hover) Bool.false_ne_true
      · exact ⟨c, hparse, hc⟩
    · exact hmoves
  rw [hstate, dispatch_state_of_moves hp hparse hc]
  rfl

/-- A variable is set, and the next line prints another one. -/
def missingAhead : Session :=
  (((initial 1000).load "set a 1\nprint b").state.execute "step").state

/-- The step that misses the variable starts the session over. -/
theorem missingAhead_starts_over :
    Reachable 1000 missingAhead ∧ missingAhead.engine.cursor = 1 ∧
      missingAhead.Concludes "step" ∧
        (missingAhead.execute "step").state = (missingAhead.load "set a 1\nprint b").state := by
  have h : Reachable 1000 missingAhead := .execute _ (.load _ .initial)
  have hconcludes : missingAhead.Concludes "step" :=
    ⟨by decide, rfl, .inr (.inl (by decide))⟩
  obtain ⟨source, hp, -, hloaded⟩ := (h.starts_over "step").2 hconcludes
  refine ⟨h, rfl, hconcludes, (hloaded (.inl (by decide))).trans ?_⟩
  have hsame : Program.ofSource "set a 1\nprint b" = .ofSource source := Option.some.inj hp
  simp only [load, Engine.load, hsame]

end Session

end LineDebugger
