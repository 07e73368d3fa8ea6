import LineDebugger.Proofs.Engine.Termination
import LineDebugger.Proofs.Session.Command

/-!
# The loops of a session exit

A run and a step over a call are loops without a bound of their own, and a program may well call
itself. The limit on calls is what makes them exit. Each of them makes a number of steps that the
state it starts from bounds, and the number is the least one with a reason to stop: an error, a
variable that was missing, the end of the program, a breakpoint for a run, and for a step over the
line after the call.

Breakpoints do not matter for this. Even an engine that is made to step on, whatever happens, never
comes back to a position that a successful step has left, and comes to an error or to the end of
the program.

## Main results

* `Session.loops_exit` — runs and steps over exit, and no position comes back
-/

namespace LineDebugger

namespace Session

variable {s : Session} {p : Program}

/-- **The loops exit.** With a program, a run makes steps to the first stop, a breakpoint or an
ending, and a step over makes one step or, if that enters a function, steps to the line after the
call or an ending. The bound on the steps that are left bounds either number. No position that a
successful step has left before the end of the program is come back to by further steps, and steps
come to an error or to the end of the program. Without a program there are no steps to be made. -/
theorem loops_exit (s : Session) :
    (s.engine.program? = none →
      s.run = .done s [.nothingToRun] ∧ s.stepOver = .done s [.nothingToExecute]) ∧
    ∀ p, s.engine.program? = some p →
      (∃ n ≤ s.engine.remaining + 1, Reflects s s.run (s.engine.steps n) ∧
        s.engine.FirstStop (fun e => s.breakpoints.contains e.cursor) n) ∧
      (∃ n ≤ s.engine.remaining + 1, Reflects s s.stepOver (s.engine.steps n) ∧
        if s.engine.Enters then s.engine.FirstStop (fun e => e.cursor == s.engine.cursor + 1) n
        else n = 1) ∧
      (∀ m n, m < n → (s.engine.trail m).atEnd = false →
        (s.engine.trail m).step.error? = none →
          (s.engine.trail n).position ≠ (s.engine.trail m).position) ∧
      ∃ n ≤ s.engine.remaining + 1,
        (s.engine.steps n).error?.isSome ∨ (s.engine.steps n).state.atEnd := by
  constructor
  · intro hp
    exact ⟨by rw [run, hp], stepOver_of_no_program hp⟩
  · intro p hp
    refine ⟨?_, ?_, ?_, Engine.exists_error_or_atEnd hp⟩
    · obtain ⟨n, hn, hstop, hgo⟩ :=
        Engine.exists_firstStop (fun e => s.breakpoints.contains e.cursor) hp
      exact ⟨n, hn, hgo ▸ run_reflects hp, hstop⟩
    · by_cases hin : s.engine.Enters
      · obtain ⟨n, hn, hstop, hgo⟩ :=
          Engine.exists_firstStop (fun e => e.cursor == s.engine.cursor + 1) hp
        refine ⟨n, hn, hgo ▸ stepOver_reflects_go hp hin.1 hin.2, ?_⟩
        rw [if_pos hin]
        exact hstop
      · refine ⟨1, Nat.le_add_left _ _, stepOver_reflects_of_not_enters hp hin, ?_⟩
        rw [if_neg hin]
    · intro m n hmn hend herr
      exact Engine.trail_position_ne hp hmn hend herr

/-- Two functions that call each other without an end. -/
def mutualRecursion : Session :=
  ((initial 3).load "def f\n    call g\ndef g\n    call f\ncall f").state

theorem mutualRecursion_exits :
    mutualRecursion.engine.program? =
        some (.ofSource "def f\n    call g\ndef g\n    call f\ncall f") ∧
      ∃ n ≤ mutualRecursion.engine.remaining + 1,
        Reflects mutualRecursion mutualRecursion.run (mutualRecursion.engine.steps n) ∧
          mutualRecursion.engine.FirstStop
            (fun e => mutualRecursion.breakpoints.contains e.cursor) n := by
  have hp : mutualRecursion.engine.program? =
      some (.ofSource "def f\n    call g\ndef g\n    call f\ncall f") := rfl
  exact ⟨hp, ((loops_exit mutualRecursion).2 _ hp).1⟩

end Session

end LineDebugger
