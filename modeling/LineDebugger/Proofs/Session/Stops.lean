import LineDebugger.Proofs.Session.History

/-!
# Where a run stops

A run stops as soon as the cursor is on a breakpoint. The cursor is there for one of two reasons.
Usually it is on the line that is to be processed next. But a function has no end of its own, and
a call is over at the first line that is not in the block: for one step the cursor rests on a line
that belongs to somebody else, or behind the last line, while the call is still under way. A
breakpoint on that line stops the run before the return, and nothing on the line is about to happen.

This is the only exception. Whether it applies can be read off the cursor and the innermost call,
because the invariant of `Engine.Placed` leaves no place for a return but the end of a block.

## Main results

* `Session.run_stop_processes_or_returns` — what the next step after a stop is about
* `Session.run_stops_before_return` — a stop behind the last line, with a call under way
-/

namespace LineDebugger

namespace Session

variable {limit : Nat} {s : Session} {p : Program} {line : String}

/-- A run that neither failed nor came to an ending made steps to a breakpoint. -/
theorem run_stops_on_breakpoint (ha : s.awaitingSource = false) (hp : s.engine.program? = some p)
    (hparse : Command.parse line = .ok (some .run)) (hstop : s.resets line = false) :
    ∃ n, (s.execute line).state.engine = (s.engine.steps n).state ∧
      Engine.ending? (s.engine.steps n) = none ∧
        s.breakpoints.contains (s.engine.steps n).state.cursor := by
  have hreflects := run_reflects hp
  obtain ⟨k, hk, hreason, -⟩ := Engine.go_eq_steps (fun e => s.breakpoints.contains e.cursor) hp
  rw [hk] at hreflects
  have hending := ending?_eq_none_of_reflects ha hparse hreflects hstop
  have hexecute := execute_of_reflects ha hparse hreflects hending
  refine ⟨k + 1, congrArg engine hexecute.2, hending, hreason.resolve_left ?_⟩
  rw [hending]
  exact Bool.false_ne_true

/-- A run stops at the first breakpoint, if it comes to it before an ending. -/
theorem run_stops_at_first {n : Nat} (ha : s.awaitingSource = false)
    (hp : s.engine.program? = some p) (hparse : Command.parse line = .ok (some .run))
    (hending : Engine.ending? (s.engine.steps (n + 1)) = none)
    (hbreak : s.breakpoints.contains (s.engine.steps (n + 1)).state.cursor)
    (hfirst : ∀ j < n, Engine.ending? (s.engine.steps (j + 1)) = none ∧
      s.breakpoints.contains (s.engine.steps (j + 1)).state.cursor = false) :
    s.resets line = false ∧ (s.execute line).state.engine = (s.engine.steps (n + 1)).state := by
  have hgo : (s.engine.go fun e => s.breakpoints.contains e.cursor) = s.engine.steps (n + 1) :=
    Engine.go_eq_steps_of_first hp (.inr hbreak) hfirst
  have hreflects := run_reflects hp
  rw [hgo] at hreflects
  rw [resets_of_reflects ha hparse hreflects, hending]
  exact ⟨rfl, congrArg engine (execute_of_reflects ha hparse hreflects hending).2⟩

/-- **Where a run stops.** A run that stops without failing or coming to an ending has the cursor on
a breakpoint. If the active function has run to the end of its block, the next step returns from it;
otherwise the line under the cursor exists, and the next step is about this line. -/
theorem run_stop_processes_or_returns (h : Reachable limit s) (ha : s.awaitingSource = false)
    (hp : s.engine.program? = some p) (hparse : Command.parse line = .ok (some .run))
    (hstop : s.resets line = false) :
    let e := (s.execute line).state.engine
    s.breakpoints.contains e.cursor ∧
      (e.BlockDone p → ∃ frame outer, e.stack = frame :: outer ∧
        e.step = .done { e with stack := outer, cursor := frame.returnLine } [.returned frame]) ∧
        (¬e.BlockDone p → e.Processes p) := by
  obtain ⟨n, hengine, hending, hbreak⟩ := run_stops_on_breakpoint ha hp hparse hstop
  intro e
  have he : e = (s.engine.steps n).state := hengine
  have hprogram : e.program? = some p := by rw [he, Engine.steps_program?, hp]
  have hplaced : e.Placed := he ▸ h.placed.steps n
  have hend : e.atEnd = false := he ▸ (Engine.ending?_eq_none_iff.1 hending).2.2
  exact ⟨he ▸ hbreak, fun hdone => hdone.step hprogram, hplaced.processes hprogram hend⟩

/-- A program that ends with a function, and a breakpoint behind its last line. -/
def breakBehind : Session :=
  (((initial 1000).load "call f\ndef f\n    set a 1").state.execute "add break 3").state

theorem reachable_breakBehind : Reachable 1000 breakBehind := .execute _ (.load _ .initial)

/-- The run enters the function, passes its header and its only line, and stops behind it. -/
theorem run_breakBehind :
    breakBehind.resets "run" = false ∧
      (breakBehind.execute "run").state.engine = (breakBehind.engine.steps 3).state := by
  refine run_stops_at_first rfl rfl rfl (by decide) (by decide) ?_
  intro j hj
  have hcases : j = 0 ∨ j = 1 := by omega
  rcases hcases with rfl | rfl <;> exact ⟨by decide, by decide⟩

theorem run_stop_returns_behind_last_line :
    let e := (breakBehind.execute "run").state.engine
    Reachable 1000 breakBehind ∧ breakBehind.awaitingSource = false ∧
      breakBehind.engine.program? = some (.ofSource "call f\ndef f\n    set a 1") ∧
        Command.parse "run" = .ok (some .run) ∧ breakBehind.resets "run" = false ∧
          ∃ frame outer, e.stack = frame :: outer ∧
            e.step = .done { e with stack := outer, cursor := frame.returnLine }
              [.returned frame] := by
  obtain ⟨hstop, hengine⟩ := run_breakBehind
  have hnext := run_stop_processes_or_returns reachable_breakBehind rfl rfl rfl hstop
  refine ⟨reachable_breakBehind, rfl, rfl, rfl, hstop, hnext.2.1 ?_⟩
  rw [hengine]
  exact ⟨⟨"f", 0⟩, [], 1, rfl, rfl, rfl⟩

/-- The run stops on a breakpoint, but under the cursor there is no line to be processed. -/
theorem run_stops_before_return :
    let e := (breakBehind.execute "run").state.engine
    Reachable 1000 breakBehind ∧ breakBehind.awaitingSource = false ∧
      breakBehind.resets "run" = false ∧ breakBehind.breakpoints.contains e.cursor ∧
        ¬e.Processes (.ofSource "call f\ndef f\n    set a 1") := by
  obtain ⟨hstop, hengine⟩ := run_breakBehind
  refine ⟨reachable_breakBehind, rfl, hstop, ?_, ?_⟩
  · rw [hengine]
    decide
  · rw [hengine]
    rintro ⟨hlt, -⟩
    exact absurd hlt (by decide)

end Session

end LineDebugger
