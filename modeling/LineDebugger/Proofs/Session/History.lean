import LineDebugger.Proofs.Engine.Reachable
import LineDebugger.Proofs.Session.Command

/-!
# Histories of sessions

A session lives by the lines it takes, and now and then by a program loaded from outside. What it
can come to be that way is `Session.Reachable`, and what it is after given lines, with all that
was put out on the way, is computed by folding over them.

## Main definitions

* `Session.Reachable` — the states of a session that some history leads to
* `Session.after`, `Session.outputsOf` — the session after some lines, and all its output
* `Session.keepsGoing` — none of the lines makes the session start over

## Main results

* `Session.execute_engine` — what a line does to the engine
* `Session.Reachable.engine_invariant` — what holds of all engines that steps and loads lead to
* `Session.Reachable.engine` — the engine of a reachable session is reachable
-/

namespace LineDebugger

namespace Session

/-- The states that a session with this limit on calls can come to. -/
inductive Reachable (limit : Nat) : Session → Prop
  | initial : Reachable limit (.initial limit)
  | execute {s : Session} (line : String) (h : Reachable limit s) :
      Reachable limit (s.execute line).state
  | load {s : Session} (source : String) (h : Reachable limit s) :
      Reachable limit (s.load source).state

/-- The session after some lines. -/
def after (s : Session) (lines : List String) : Session :=
  lines.foldl (fun s line => (s.execute line).state) s

/-- All that is put out while the session takes some lines. -/
def outputsOf (s : Session) : List String → List String
  | [] => []
  | line :: lines => outputs (s.execute line).events ++ (s.execute line).state.outputsOf lines

/-- Does none of the lines make the session start over? -/
def keepsGoing (s : Session) : List String → Bool
  | [] => true
  | line :: lines => !s.resets line && (s.execute line).state.keepsGoing lines

variable {s : Session} {line : String} {lines : List String}

@[simp] theorem after_nil (s : Session) : s.after [] = s := rfl

@[simp] theorem after_append_singleton :
    s.after (lines ++ [line]) = ((s.after lines).execute line).state := by
  rw [after, List.foldl_append]
  rfl

@[simp] theorem outputsOf_append_singleton :
    s.outputsOf (lines ++ [line]) =
      s.outputsOf lines ++ outputs ((s.after lines).execute line).events := by
  induction lines generalizing s with
  | nil => simp [outputsOf]
  | cons first lines ih =>
    simp only [List.cons_append, outputsOf, ih, List.append_assoc]
    rfl

@[simp] theorem keepsGoing_append_singleton :
    s.keepsGoing (lines ++ [line]) = (s.keepsGoing lines && !(s.after lines).resets line) := by
  induction lines generalizing s with
  | nil => simp [keepsGoing]
  | cons first lines ih =>
    simp only [List.cons_append, keepsGoing, ih, Bool.and_assoc]
    rfl

/-! ### What happens to the engine -/

/-- A command that moves the engine leaves the rest of the session alone. Without a program it makes
no steps. -/
theorem perform_of_moves {c : Command} (hmoves : c.moves) (s : Session) :
    ∃ n, (s.perform c).state = { s with engine := (s.engine.steps n).state } := by
  cases hp : s.engine.program? with
  | some p =>
    obtain ⟨n, hreflects, -⟩ := perform_reflects_steps hp hmoves
    exact ⟨n + 1, hreflects.state⟩
  | none =>
    obtain ⟨event, -, hperform⟩ := perform_of_no_program hp hmoves
    exact ⟨0, congrArg Outcome.state hperform⟩

/-- A command makes some steps, or none. -/
theorem perform_engine (s : Session) (c : Command) :
    ∃ n, (s.perform c).state.engine = (s.engine.steps n).state := by
  cases hmoves : c.moves with
  | false =>
    refine ⟨0, ?_⟩
    cases c with
    | run | step | stepOver => cases hmoves
    | _ => rfl
  | true =>
    obtain ⟨n, hstate⟩ := perform_of_moves hmoves s
    exact ⟨n, congrArg engine hstate⟩

theorem dispatch_engine (s : Session) (line : String) :
    ∃ n, (s.dispatch line).state.engine = (s.engine.steps n).state := by
  rw [dispatch]
  split
  · exact ⟨0, rfl⟩
  · exact ⟨0, rfl⟩
  · exact perform_engine s _

/-- A line leaves the engine some steps further, or with a program to start on. -/
theorem execute_engine (s : Session) (line : String) :
    (∃ n, (s.execute line).state.engine = (s.engine.steps n).state ∨
        (s.execute line).state.engine = (s.engine.steps n).state.restarted) ∨
      (s.execute line).state.engine = (s.engine.load line).state := by
  rw [execute]
  split
  · exact .inl ⟨0, .inl rfl⟩
  · split
    · exact .inr rfl
    · obtain ⟨n, hn⟩ := dispatch_engine s line
      refine .inl ⟨n, ?_⟩
      rw [settle]
      split
      · exact .inr (congrArg Engine.restarted hn)
      · exact .inl hn

/-- What holds of an engine without a program, and stays when one is loaded, on a restart and with
every step, holds of the engine of every reachable session. -/
theorem Reachable.engine_invariant {limit : Nat} {P : Engine → Prop} (hinitial : P (.initial limit))
    (hload : ∀ e source, P e → P (e.load source).state) (hrestarted : ∀ e, P e → P e.restarted)
    (hstep : ∀ e, P e → P e.step.state) (h : Reachable limit s) : P s.engine := by
  induction h with
  | initial => exact hinitial
  | @execute s line h ih =>
    rcases execute_engine s line with ⟨n, heq | heq⟩ | heq
    · rw [heq]; exact Engine.steps_invariant hstep ih n
    · rw [heq]; exact hrestarted _ (Engine.steps_invariant hstep ih n)
    · rw [heq]; exact hload _ _ ih
  | load source h ih => exact hload _ source ih

/-- The engine of a reachable session is reachable by loads, resets and steps alone. -/
theorem Reachable.engine {limit : Nat} (h : Reachable limit s) : s.engine.Reachable limit :=
  h.engine_invariant .initial (fun _ source => .load source) (fun _ => .reset) fun _ => .step

/-- The engine of a reachable session is in its place. -/
theorem Reachable.placed {limit : Nat} (h : Reachable limit s) : s.engine.Placed :=
  h.engine.placed

end Session

end LineDebugger
