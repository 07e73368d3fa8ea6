import LineDebugger.Proofs.Engine.Outline
import LineDebugger.Proofs.Session.Loading

/-!
# A session does not see the layout of its program

Two sessions have loaded programs with the same outlines. Whatever they are given from then on,
they give the same answers: the same events, and with them the same lines of output; the same
cursor, calls, variables and breakpoints after each input; and the same errors, but for the text
that is quoted of a line that cannot be read. A later input may load another program into both, and
they are the same then without exception.

Nothing a session does itself looks at the text of a line. So the proof goes through the commands
only to see that each of them is put together from what the engine does, with decisions in between
that are made from what the sessions have in common.

## Main definitions

* `CommandError.unquoted` — an error without the text of a line that cannot be read
* `Session.Alike` — sessions whose programs have the same outlines, and else the same

## Main results

* `Session.Alike.execute`, `Session.Alike.answers` — what such sessions answer
* `Session.layout_not_seen` — with the changes to a text that leave the outlines as they are
-/

namespace LineDebugger

open Outcome

/-- The error without the text of a line that cannot be read. -/
def CommandError.unquoted : CommandError → CommandError
  | program error => program error.unquoted
  | invalidBreakpoint command => invalidBreakpoint command

namespace Session

variable {s t : Session}

/-- The programs have the same outlines, and all else is the same. -/
structure Alike (s t : Session) : Prop where
  engine : s.engine.Alike t.engine
  breakpoints : s.breakpoints = t.breakpoints
  awaitingSource : s.awaitingSource = t.awaitingSource

/-! ### Commands -/

theorem Alike.withEngine {o o' : Outcome Engine ProgramError} (h : s.Alike t)
    (ho : Outcome.Alike Engine.Alike ProgramError.unquoted o o') :
    Outcome.Alike Alike ProgramError.unquoted (s.withEngine o) (t.withEngine o') :=
  ho.map fun hengine => ⟨hengine, h.breakpoints, h.awaitingSource⟩

theorem Alike.step (h : s.Alike t) :
    Outcome.Alike Alike ProgramError.unquoted s.step t.step := by
  rw [Session.step, Session.step]
  cases hp : s.engine.program? with
  | none =>
    rw [h.engine.program?_eq_none_iff.1 hp]
    exact .done h _
  | some p =>
    obtain ⟨q, hq, -⟩ := h.engine.exists_program hp
    rw [hq]
    exact h.withEngine h.engine.step

theorem Alike.run (h : s.Alike t) : Outcome.Alike Alike ProgramError.unquoted s.run t.run := by
  rw [Session.run, Session.run]
  cases hp : s.engine.program? with
  | none =>
    rw [h.engine.program?_eq_none_iff.1 hp]
    exact .done h _
  | some p =>
    obtain ⟨q, hq, -⟩ := h.engine.exists_program hp
    rw [hq]
    refine h.withEngine ((h.engine.step.andThen fun _ hnext => ?_).andThen fun _ hlast => ?_)
    · rw [← h.breakpoints]
      exact Engine.Alike.advance (fun he => congrArg _ he.cursor) hnext
    · rw [hlast.succeeded, hlast.atEnd, hlast.cursor]
      split
      · exact .done hlast _
      · exact .done hlast _

theorem Alike.stepOver (h : s.Alike t) :
    Outcome.Alike Alike ProgramError.unquoted s.stepOver t.stepOver := by
  refine h.step.andThen fun _ hnext => ?_
  rw [hnext.engine.stack, h.engine.stack]
  split
  · next frame outer _ =>
    split
    · refine Outcome.Alike.after (hnext.withEngine (Engine.Alike.advance ?_ hnext.engine)) _
      intro e e' he
      rw [he.cursor]
    · exact .done hnext _
  · exact .done hnext _

theorem Alike.perform (h : s.Alike t) (c : Command) :
    Outcome.Alike Alike ProgramError.unquoted (s.perform c) (t.perform c) := by
  cases c with
  | setCode => exact .done ⟨h.engine, h.breakpoints, rfl⟩ _
  | run => exact h.run
  | step => exact h.step
  | stepOver => exact h.stepOver
  | printMemory =>
    rw [Session.perform, Session.perform, h.engine.interpreter]
    exact .done h _
  | printTrace =>
    rw [Session.perform, Session.perform, h.engine.stack]
    exact .done h _
  | printBreakpoints =>
    rw [Session.perform, Session.perform, h.breakpoints]
    exact .done h _
  | addBreakpoint line =>
    exact .done ⟨h.engine, congrArg (Breakpoints.insert · line) h.breakpoints, h.awaitingSource⟩ _
  | removeBreakpoint line =>
    exact .done ⟨h.engine, congrArg (Breakpoints.erase · line) h.breakpoints, h.awaitingSource⟩ _
  | clearBreakpoints => exact .done ⟨h.engine, rfl, h.awaitingSource⟩ _

theorem Alike.dispatch (h : s.Alike t) (line : String) :
    Outcome.Alike Alike CommandError.unquoted (s.dispatch line) (t.dispatch line) := by
  rw [Session.dispatch, Session.dispatch]
  split
  · exact .fail h rfl
  · exact .done h _
  · exact (h.perform _).mapError fun _ => rfl

/-- Whether a session starts over can be told without the quoted text. -/
theorem endsRun_eq_of_alike {o o' : Outcome Session CommandError}
    (h : Outcome.Alike Alike CommandError.unquoted o o') : endsRun o = endsRun o' := by
  have hview : ∀ error? : Option CommandError,
      error?.any CommandError.isProgram =
        (error?.map CommandError.unquoted).any CommandError.isProgram := by
    intro error?
    rcases error? with _ | (error | command) <;> rfl
  rw [endsRun, endsRun, hview, hview o'.error?, h.error?, h.state.engine.atEnd,
    h.state.engine.succeeded]

theorem settle_alike {o o' : Outcome Session CommandError}
    (h : Outcome.Alike Alike CommandError.unquoted o o') :
    Outcome.Alike Alike CommandError.unquoted (settle o) (settle o') := by
  rw [settle, settle, endsRun_eq_of_alike h]
  split
  · exact ⟨⟨h.state.engine.restarted, h.state.breakpoints, h.state.awaitingSource⟩,
      congrArg (· ++ [.sessionReset]) h.events, h.error?⟩
  · exact h

/-- Sessions that load texts of the same outline are alike after it. -/
theorem Alike.load (h : s.Alike t) {a b : String} (houtline : SameOutline a b) :
    Outcome.Alike Alike ProgramError.unquoted (s.load a) (t.load b) := by
  have houtlines : (Program.ofSource a).outlines = (Program.ofSource b).outlines := houtline
  refine h.withEngine ⟨⟨congrArg some houtlines, rfl, rfl, rfl, h.engine.depthLimit⟩, ?_, rfl⟩
  rw [Engine.load, Engine.load, Outcome.done_events, Outcome.done_events, Program.size_eq,
    Program.size_eq, Program.functions_eq_of_outlines houtlines, houtlines]

theorem Alike.execute (h : s.Alike t) (line : String) :
    Outcome.Alike Alike CommandError.unquoted (s.execute line) (t.execute line) := by
  rw [Session.execute, Session.execute, h.awaitingSource]
  split
  · exact .done h _
  · split
    · refine Outcome.Alike.mapError (Alike.load ?_ rfl) fun _ => rfl
      exact ⟨h.engine, h.breakpoints, rfl⟩
    · exact settle_alike (h.dispatch line)

/-! ### Histories -/

theorem Alike.take (h : s.Alike t) (input : Input) :
    Outcome.Alike Alike CommandError.unquoted (s.take input) (t.take input) := by
  cases input with
  | line text => exact h.execute text
  | source text => exact (h.load rfl).mapError fun _ => rfl

/-- Sessions whose programs look the same give the same answers. -/
theorem Alike.answers (h : s.Alike t) (inputs : List Input) :
    List.Forall₂ (Outcome.Alike Alike CommandError.unquoted) (s.answers inputs)
      (t.answers inputs) := by
  induction inputs generalizing s t with
  | nil => exact .nil
  | cons input inputs ih => exact .cons (h.take input) (ih (h.take input).state)

/-- Sessions that have loaded texts of the same outline are alike, if both await a program or none
of them does. -/
theorem Loads.alike {a b : String} {inputs inputs' : List Input} (hs : s.Loads a inputs)
    (ht : t.Loads b inputs') (houtline : SameOutline a b)
    (hlimit : s.engine.depthLimit = t.engine.depthLimit)
    (hbreakpoints : s.breakpoints = t.breakpoints)
    (hawaiting : (s.afterInputs inputs).awaitingSource = (t.afterInputs inputs').awaitingSource) :
    (s.afterInputs inputs).Alike (t.afterInputs inputs') := by
  obtain ⟨awaiting, hsafter, -⟩ := hs.afterInputs_eq
  obtain ⟨awaiting', htafter, -⟩ := ht.afterInputs_eq
  rw [hsafter, htafter] at hawaiting ⊢
  have houtlines : (Program.ofSource a).outlines = (Program.ofSource b).outlines := houtline
  exact ⟨⟨congrArg some houtlines, rfl, rfl, rfl, hlimit⟩, hbreakpoints, hawaiting⟩

/-- **A session does not see the layout of its program.** Two sessions with the same limit on calls
and the same breakpoints load texts of the same outline, each in its own way. If both await a
program after that or none of them does, they answer all further inputs alike: with the same events,
leaving the same cursor, calls, variables and breakpoints, and with the same errors, but for the
text of a line that cannot be read. A text without empty lines has the same outline with a carriage
return before every newline. A text has the same outline when blanks are put at the end of lines
that have words, when anything is put behind a third word or taken away from there, and when empty
lines are put in. -/
theorem layout_not_seen :
    (∀ (s t : Session) (a b : String) (inputs inputs' : List Input), SameOutline a b →
      s.Loads a inputs → t.Loads b inputs' → s.engine.depthLimit = t.engine.depthLimit →
      s.breakpoints = t.breakpoints →
      (s.afterInputs inputs).awaitingSource = (t.afterInputs inputs').awaitingSource →
      ∀ further, List.Forall₂ (Outcome.Alike Alike CommandError.unquoted)
        ((s.afterInputs inputs).answers further) ((t.afterInputs inputs').answers further)) ∧
    (∀ text, "" ∉ (Text.pieces text).dropLast → SameOutline text (withReturns text)) ∧
    ∀ lines lines', Relaid lines lines' → (∀ line ∈ lines, '\n' ∉ line.toList) →
      (∀ line ∈ lines', '\n' ∉ line.toList) →
      SameOutline (Text.ofPieces lines) (Text.ofPieces lines') := by
  refine ⟨?_, fun _ => sameOutline_withReturns, fun _ _ => Relaid.sameOutline⟩
  intro s t a b inputs inputs' houtline hs ht hlimit hbreakpoints hawaiting further
  exact (hs.alike ht houtline hlimit hbreakpoints hawaiting).answers further

/-- Three lines, the last of which cannot be read. -/
def tidyLines : List String := ["set a 2", "print a", "frob"]

/-- The same lines with a comment, an empty line, a carriage return and a blank. -/
def raggedLines : List String := ["set a 2 # two", "", "print a\r", "frob "]

/-- A run tells the two apart by the line that it quotes, and by nothing else. -/
theorem raggedLines_run_alike :
    let s := (initial 5).afterInputs [.source (Text.ofPieces tidyLines)]
    let t := (initial 5).afterInputs [.source (Text.ofPieces raggedLines)]
    Relaid tidyLines raggedLines ∧
      SameOutline (Text.ofPieces tidyLines) (withReturns (Text.ofPieces tidyLines)) ∧
      List.Forall₂ (Outcome.Alike Alike CommandError.unquoted) (s.answers [.line "run"])
        (t.answers [.line "run"]) ∧
      (s.execute "run").error? = some (.program (.malformed 2 "frob" .missingName)) ∧
      (t.execute "run").error? = some (.program (.malformed 2 "frob " .missingName)) := by
  intro s t
  obtain ⟨halike, hreturns, hrelaid⟩ := layout_not_seen
  have hlayout : Relaid tidyLines raggedLines := by
    have hcomment : Reworded "set a 2" "set a 2 # two" :=
      @Reworded.words "set a 2" "" " # two" (by decide +kernel) (by decide) (by decide)
    have hreturn : Reworded "print a" "print a\r" :=
      @Reworded.blanks "print a" "\r" (by decide +kernel) (by decide)
    have hblank : Reworded "frob" "frob " :=
      @Reworded.blanks "frob" " " (by decide +kernel) (by decide)
    exact .line hcomment (.empty (.line hreturn (.line hblank .nil)))
  have houtline := hrelaid _ _ hlayout (by decide +kernel) (by decide +kernel)
  have hfull : "" ∉ (Text.pieces (Text.ofPieces tidyLines)).dropLast := by
    rw [Text.pieces_eq]
    decide +kernel
  have hawaiting : ∀ text, ((initial 5).afterInputs [.source text]).awaitingSource = false :=
    fun _ => rfl
  refine ⟨hlayout, hreturns _ hfull, ?_, by decide +kernel, by decide +kernel⟩
  exact halike _ _ _ _ _ _ houtline .outside .outside rfl rfl
    ((hawaiting _).trans (hawaiting _).symm) _

end Session

end LineDebugger
