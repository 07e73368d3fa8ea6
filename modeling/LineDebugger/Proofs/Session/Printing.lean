import LineDebugger.Proofs.Session.Origin
import LineDebugger.Proofs.Text.Numeral

/-!
# What a program can print

A program has one way to print, and it prints a number that is in memory. So the output of a command
that moves the engine is a list of numerals, one for each `print` that was executed, in the order of
the steps. They are numerals of positive numbers, because memory holds no others.

There is one other line that can be put out: the message that a variable was missing. It is no
number, and it is the end. The statement that misses its variable puts the flag down, and all loops
look at the flag after every step, so no step is made after that one. But it is no error either, so
the command succeeds, and then the session starts over.

What a step puts out is told from the state before it. Then nothing has to be known of the loops but
that the steps before the last one came to no ending.

## Main definitions

* `Engine.misses`, `Engine.printed?` — what the next step will put out
* `Engine.printedBy` — the values that so many steps print

## Main results

* `Engine.step_output` — a step puts out a value, the message, or nothing
* `Engine.outputs_steps` — steps put out values, and the message at most as the last line
* `Session.Reachable.output_is_values` — so do the commands that move the engine
-/

namespace LineDebugger

namespace Engine

variable {limit : Nat} {e : Engine}

/-- Does the next step execute a statement that needs a variable that is not in memory? -/
def misses (e : Engine) : Bool := e.statement?.any (·.misses e.interpreter.memory)

/-- The value of the variable that the next step prints, if it prints one. -/
def printed? (e : Engine) : Option Int64 := e.statement?.bind (·.printed? e.interpreter.memory)

/-- The values that so many steps print, in order. -/
def printedBy (e : Engine) (n : Nat) : List Int64 :=
  (List.range n).filterMap fun j => (e.steps j).state.printed?

theorem printedBy_succ (e : Engine) (n : Nat) :
    e.printedBy (n + 1) = e.printedBy n ++ (e.steps n).state.printed?.toList := by
  rw [printedBy, List.range_succ, List.filterMap_append]
  cases h : (e.steps n).state.printed? <;> simp [printedBy, h]

/-- A step that misses its variable puts out the message, and succeeds with the flag down. Any other
step puts out the value that it prints, if it prints one, and leaves the flag as it is. -/
theorem step_output (e : Engine) :
    (e.misses ∧ e.printed? = none ∧ outputs e.step.events = [missingVariableMessage] ∧
        e.step.error? = none ∧ e.step.state.succeeded = false) ∨
      (e.misses = false ∧
        outputs e.step.events = (e.printed?.map fun value => toString value.toInt).toList ∧
          e.step.state.succeeded = e.succeeded) := by
  cases hs : e.statement? with
  | none =>
    obtain ⟨hsame, hout⟩ := step_of_no_statement hs
    rw [misses, printed?, hs]
    exact .inr ⟨rfl, hout, congrArg Interpreter.succeeded hsame⟩
  | some s =>
    rw [misses, printed?, hs, step_events_of_statement? hs, step_error?_of_statement? hs,
      step_state_of_statement? hs]
    rcases e.interpreter.execute_output s with ⟨hmisses, hrest⟩ | hfound
    · exact .inl ⟨hmisses, Statement.printed?_of_misses hmisses, hrest⟩
    · exact .inr hfound

/-- As long as the execution goes on, no variable was missing. -/
theorem misses_of_going {n : Nat} (h : ending? (e.steps (n + 1)) = none) :
    (e.steps n).state.misses = false := by
  obtain ⟨herr, hok, -⟩ := ending?_eq_none_iff.1 h
  rw [step_of_steps (steps_error?_of_le n.le_succ herr), Outcome.after_state] at hok
  rcases (e.steps n).state.step_output with ⟨-, -, -, -, hdown⟩ | ⟨hfound, -⟩
  · rw [hdown] at hok
    cases hok
  · exact hfound

/-- One step more puts out one line more, or none. -/
theorem outputs_steps_succ {n : Nat} (herr : (e.steps n).error? = none) :
    outputs (e.steps (n + 1)).events = outputs (e.steps n).events ++
      if (e.steps n).state.misses then [missingVariableMessage]
      else ((e.steps n).state.printed?.map fun value => toString value.toInt).toList := by
  rw [step_of_steps herr, Outcome.after_events, outputs_append]
  rcases (e.steps n).state.step_output with ⟨hmisses, -, hout, -⟩ | ⟨hfound, hout, -⟩
  · rw [hmisses, hout]
    rfl
  · rw [hfound, hout]
    rfl

/-- As long as the execution goes on, only values are put out. -/
theorem outputs_of_going {n : Nat} (hgoing : ∀ j < n, ending? (e.steps (j + 1)) = none) :
    outputs (e.steps n).events = (e.printedBy n).map fun value => toString value.toInt := by
  induction n with
  | zero => rfl
  | succ n ih =>
    have hnone := hgoing n (Nat.lt_succ_self n)
    have herr := steps_error?_of_le n.le_succ (ending?_eq_none_iff.1 hnone).1
    rw [outputs_steps_succ herr, misses_of_going hnone, printedBy_succ, List.map_append,
      ih fun j hj => hgoing j (Nat.lt_succ_of_lt hj)]
    cases (e.steps n).state.printed? <;> rfl

/-- The step that misses its variable is no failure, but an ending. -/
theorem steps_of_misses {n : Nat} (herr : (e.steps n).error? = none)
    (h : (e.steps n).state.misses) :
    (e.steps (n + 1)).error? = none ∧ ending? (e.steps (n + 1)) = some .missingVariable := by
  rcases (e.steps n).state.step_output with ⟨-, -, -, hsucceeds, hdown⟩ | ⟨hfound, -⟩
  · rw [step_of_steps herr, ending?_after, Outcome.after_error?, ending?, hsucceeds, ended?, hdown]
    exact ⟨rfl, rfl⟩
  · rw [h] at hfound
    cases hfound

/-- Up to the step that comes to an ending, values are put out, and then the message if this last
step misses its variable. -/
theorem outputs_steps {n : Nat} (hgoing : ∀ j < n, ending? (e.steps (j + 1)) = none) :
    outputs (e.steps (n + 1)).events =
      ((e.printedBy (n + 1)).map fun value => toString value.toInt) ++
        if (e.steps n).state.misses then [missingVariableMessage] else [] := by
  rw [outputs_steps_succ (steps_error?_of_going hgoing), outputs_of_going hgoing,
    printedBy_succ, List.map_append, List.append_assoc]
  congr 1
  rcases (e.steps n).state.step_output with ⟨hmisses, hnothing, -⟩ | ⟨hfound, -⟩
  · rw [hmisses, hnothing]
    rfl
  · rw [hfound, if_neg Bool.false_ne_true, if_neg Bool.false_ne_true, List.append_nil]
    cases (e.steps n).state.printed? <;> rfl

/-- What is printed is a positive number of 64 bits. -/
theorem Reachable.printed_range {value : Int64} (h : Reachable limit e)
    (hv : e.printed? = some value) : 1 ≤ value.toInt ∧ value.toInt ≤ Int64.maxValue.toInt := by
  obtain ⟨s, -, hprinted⟩ := Option.bind_eq_some_iff.1 hv
  obtain ⟨-, hvalue⟩ := Option.ite_none_right_eq_some.1 hprinted
  obtain ⟨v, hfind, rfl⟩ := Option.map_eq_some_iff.1 hvalue
  obtain ⟨p, -, hexplains, -⟩ := h.explained hfind
  exact ⟨hexplains.positive, v.value.toInt_le⟩

/-- The message is no number. -/
theorem toString_ne_missingVariableMessage {value : Int64} {n : Nat}
    (h : Numeral.IsDecimal (toString value.toInt) n) :
    toString value.toInt ≠ missingVariableMessage := by
  intro heq
  have hletters : Numeral.digits? missingVariableMessage.toList = none := by decide
  have hdigits := h.digits
  rw [heq, hletters] at hdigits
  cases hdigits

/-- Starting over is the same at every step. -/
theorem restarted_steps (e : Engine) (n : Nat) : (e.steps n).state.restarted = e.restarted := by
  simp [restarted]

end Engine

namespace Session

variable {limit : Nat} {s : Session} {line : String} {c : Command}

/-- Without a program, the commands that move the engine put nothing out and leave the engine
alone. -/
theorem still_of_no_program (hp : s.engine.program? = none) (hmoves : c.moves) :
    (s.perform c).state.engine = s.engine ∧ outputs (s.perform c).events = [] := by
  obtain ⟨event, hsilent, hperform⟩ := perform_of_no_program hp hmoves
  rw [hperform]
  exact ⟨rfl, by simp [outputs, hsilent]⟩

/-- **What a program can print.** A command that moves the engine makes some steps, none only if
there is no program. What it puts out is, step by step, the value of the variable that the step
prints, in decimal notation, and each of these values is positive and fits 64 bits. Behind them
comes the message that a variable was missing, once, and exactly if one of the steps misses its
variable. This step is the last one, the command succeeds, and the session has started over. -/
theorem Reachable.output_is_values (h : Reachable limit s) (ha : s.awaitingSource = false)
    (hparse : Command.parse line = .ok (some c)) (hmoves : c.moves) :
    ∃ n, (n = 0 ↔ s.engine.program? = none) ∧
      (s.dispatch line).state.engine = (s.engine.steps n).state ∧
        outputs (s.execute line).events =
            ((s.engine.printedBy n).map fun value => toString value.toInt) ++
              (if ∃ j < n, (s.engine.steps j).state.misses then [missingVariableMessage] else []) ∧
          (∀ value ∈ s.engine.printedBy n,
            1 ≤ value.toInt ∧ value.toInt ≤ Int64.maxValue.toInt ∧
              Numeral.IsDecimal (toString value.toInt) value.toInt.toNat ∧
                toString value.toInt ≠ missingVariableMessage) ∧
            ∀ j < n, (s.engine.steps j).state.misses →
              j + 1 = n ∧ (s.execute line).error? = none ∧ s.resets line ∧
                (s.execute line).state = { s with engine := s.engine.restarted } := by
  have hvalues : ∀ n, ∀ value ∈ s.engine.printedBy n,
      1 ≤ value.toInt ∧ value.toInt ≤ Int64.maxValue.toInt ∧
        Numeral.IsDecimal (toString value.toInt) value.toInt.toNat ∧
          toString value.toInt ≠ missingVariableMessage := by
    intro n value hvalue
    obtain ⟨j, -, hprinted⟩ := List.mem_filterMap.1 hvalue
    obtain ⟨hpos, hlt⟩ := (h.engine.steps j).printed_range hprinted
    have hdecimal : Numeral.IsDecimal (toString value.toInt) value.toInt.toNat := by
      rw [Numeral.toString_of_nonneg (by omega)]
      exact Numeral.isDecimal_toString _
    exact ⟨hpos, hlt, hdecimal, Engine.toString_ne_missingVariableMessage hdecimal⟩
  cases hp : s.engine.program? with
  | none =>
    obtain ⟨hengine, hout⟩ := still_of_no_program hp hmoves
    refine ⟨0, by simp, ?_, ?_, hvalues 0, fun j hj => absurd hj (Nat.not_lt_zero j)⟩
    · rw [dispatch_of_parse hparse]
      exact hengine
    · rw [execute_of_parse ha hparse, outputs_settle]
      exact hout.trans (by simp [Engine.printedBy])
  | some p =>
    obtain ⟨n, hreflects, hgoing⟩ := perform_reflects_steps hp hmoves
    obtain ⟨hstate, herror, hout⟩ := execute_eq_of_reflects ha hparse hreflects
    have hlast : ∀ j < n + 1, (s.engine.steps j).state.misses → j = n := by
      intro j hj hmisses
      rcases Nat.lt_succ_iff_lt_or_eq.1 hj with hlt | rfl
      · rw [Engine.misses_of_going (hgoing j hlt)] at hmisses
        cases hmisses
      · rfl
    have hany : (∃ j < n + 1, (s.engine.steps j).state.misses) ↔
        (s.engine.steps n).state.misses := by
      constructor
      · rintro ⟨j, hj, hmisses⟩
        rwa [← hlast j hj hmisses]
      · exact fun hmisses => ⟨n, Nat.lt_succ_self n, hmisses⟩
    refine ⟨n + 1, by simp, ?_, ?_, hvalues _, ?_⟩
    · rw [dispatch_of_parse hparse]
      exact congrArg Session.engine hreflects.state
    · rw [hout, Engine.outputs_steps hgoing]
      simp only [hany]
    · intro j hj hmisses
      obtain rfl := hlast j hj hmisses
      obtain ⟨hsucceeds, hending⟩ :=
        Engine.steps_of_misses (Engine.steps_error?_of_going hgoing) hmisses
      rw [hstate, herror, resets_of_reflects ha hparse hreflects, hsucceeds, hending,
        Engine.restarted_steps]
      exact ⟨rfl, rfl, rfl, rfl⟩

/-- A function prints a variable twice and takes something off it in between. After the call another
variable is missing. -/
def printsAndMisses : Session :=
  ((initial 4).load
    "set a 7\ncall f\nprint b\nprint a\ndef f\n    print a\n    sub a 2\n    print a").state

/-- The line behind the missing variable is not executed any more. -/
theorem printsAndMisses_run :
    Reachable 4 printsAndMisses ∧ printsAndMisses.awaitingSource = false ∧
      Command.parse "run" = .ok (some .run) ∧
        outputs (printsAndMisses.execute "run").events = ["7", "5", missingVariableMessage] ∧
          (printsAndMisses.execute "run").error? = none ∧
            (printsAndMisses.execute "run").state =
              { printsAndMisses with engine := printsAndMisses.engine.restarted } := by
  have h : Reachable 4 printsAndMisses := .load _ .initial
  have hparse : Command.parse "run" = .ok (some .run) := rfl
  have hout : outputs (printsAndMisses.execute "run").events =
      ["7", "5", missingVariableMessage] := by decide +kernel
  obtain ⟨n, -, -, hlines, hvalues, hmissed⟩ := h.output_is_values rfl hparse rfl
  obtain ⟨j, hj, hmisses⟩ : ∃ j < n, (printsAndMisses.engine.steps j).state.misses := by
    by_contra hno
    rw [if_neg hno, List.append_nil, hout] at hlines
    have hmem : missingVariableMessage ∈
        (printsAndMisses.engine.printedBy n).map fun value => toString value.toInt := by
      rw [← hlines]
      simp
    obtain ⟨value, hvalue, heq⟩ := List.mem_map.1 hmem
    exact (hvalues value hvalue).2.2.2 heq
  obtain ⟨-, herr, -, hstate⟩ := hmissed j hj hmisses
  exact ⟨h, rfl, hparse, hout, herr, hstate⟩

end Session

end LineDebugger
