import LineDebugger.Proofs.Engine.Termination
import LineDebugger.Proofs.Session.StartingOver
import LineDebugger.Proofs.Session.StepOver

/-!
# Stepping over calls of flat programs

A program is *flat* if none of its body lines starts with the word that begins a definition. In a
flat program a definition is jumped over only when no call is under way, and so a step over a call
cannot be led to the line after the call by such a jump. Two ways are left. The call returns, and
the step over ends with exactly that step, in the calls that were under way before. Or a function
is entered whose header is the line after the call, and the step over ends on that header, with the
call that it was to step over still under way.

That the loop also ends with the program makes no difference. While the call is under way the
program is not over, so if it is over when the loop ends, the last step was the return.

## Main definitions

* `Program.Flat` — no body line starts a definition
* `Engine.ReturnsAfter`, `Engine.EntersAfter` — the two ways

## Main results

* `Position.Path.returns_or_enters` — how a call of a flat program comes to the line after it
* `Session.Reachable.stepOver_returns_or_enters` — a step over ends in one of the two ways
-/

namespace LineDebugger

namespace Program

/-- No body line starts with the word that begins a definition. -/
def Flat (p : Program) : Prop :=
  ∀ line ∈ p.lines, isBodyLine line → (Text.words line).head? ≠ some Line.definitionKeyword

instance (p : Program) : Decidable p.Flat :=
  inferInstanceAs (Decidable (∀ line ∈ p.lines, _))

/-- The first word of a header is the one that begins a definition. -/
theorem head?_words_of_definedName? {line name : String}
    (h : FunctionTable.definedName? line = some name) :
    (Text.words line).head? = some Line.definitionKeyword := by
  rw [FunctionTable.definedName?] at h
  split at h
  · next keyword name' rest hwords =>
    split at h
    · next hkeyword => rw [hwords, hkeyword]; rfl
    · cases h
  · cases h

/-- In a flat program no body line is a header. -/
theorem Flat.read_ne_definition {p : Program} {index : Nat} {name : String} (h : p.Flat)
    (hbody : p.isBody index) : p.read index ≠ .ok (.definition name) := by
  intro hread
  obtain ⟨line, hl, hdefined⟩ := read_eq_definition_iff.1 hread
  rw [isBody, hl] at hbody
  exact h line (Array.mem_of_getElem? hl) hbody (head?_words_of_definedName? hdefined)

end Program

namespace Position

variable {p : Program} {n header : Nat} {frame : Frame} {base : List Frame} {pos : Nat → Position}

/-- In a flat program, a call that comes to the line after it, or to where no call is under way,
has just returned, or has just entered a function with its header on that line. -/
theorem Path.returns_or_enters (hflat : p.Flat) (hpath : Path p (n + 1) pos)
    (hstart : pos 0 = ⟨frame :: base, header⟩)
    (hcall : p.read frame.callLine = .ok (.call frame.function))
    (hheader : p.functionLine? frame.function = some header)
    (hbefore : ∀ i ≤ n, (pos i).cursor ≠ frame.returnLine)
    (hstop : (pos (n + 1)).stack = [] ∨ (pos (n + 1)).cursor = frame.returnLine) :
    (pos n).stack = frame :: base ∧ pos (n + 1) = ⟨base, frame.returnLine⟩ ∨
      ∃ name, p.functionLine? name = some frame.returnLine ∧
        frame :: base <:+ (pos n).stack ∧
          pos (n + 1) = ⟨⟨name, (pos n).cursor⟩ :: (pos n).stack, frame.returnLine⟩ := by
  obtain ⟨above, index, ha⟩ :=
    (hpath.of_le (Nat.le_succ n)).under_way hstart hbefore (Nat.le_refl n)
  have hmove := hpath n (Nat.lt_succ_self n)
  rw [ha] at hmove ⊢
  rcases hmove.rebase with ⟨above', cursor', heq, -⟩ | ⟨rfl, heq⟩
  · right
    -- the call is still under way, so the cursor is on the line after it, but not by a return
    have hcursor : (pos (n + 1)).cursor = frame.returnLine := by
      rw [heq] at hstop ⊢
      exact hstop.resolve_left (by simp)
    rcases hpath.to_returnLine hstart hcall hheader hbefore hcursor with hreturned | hlands
    · have hlen := congrArg (·.stack.length) (heq.symm.trans hreturned)
      simp only [List.length_append, List.length_cons] at hlen
      omega
    · rw [ha] at hlands
      obtain ⟨hr, ⟨name, hl, hd⟩ | ⟨name, hl, -⟩⟩ := hlands
      · exact ⟨name, hd, List.suffix_append _ _, hmove.deterministic (.enter hr hl hd)⟩
      · -- with a call under way only body lines are read
        have hbody : p.isBody index := by
          cases above with
          | nil => exact hr.2
          | cons top above => exact hr.2
        exact absurd hl (hflat.read_ne_definition hbody)
  · exact .inl ⟨rfl, heq⟩

end Position

namespace Engine

variable {e : Engine} {p : Program} {frame : Frame} {n : Nat}

/-- The call that the first step makes is under way for so many steps, and one more step returns
from it. -/
structure ReturnsAfter (e : Engine) (frame : Frame) (n : Nat) : Prop where
  under_way : ∀ j < n, frame :: e.stack <:+ (e.steps (j + 1)).state.stack
  last : (e.steps n).state.stack = frame :: e.stack
  returned : (e.steps (n + 1)).state.position = ⟨e.stack, frame.returnLine⟩

/-- The call that the first step makes is still under way after so many steps and one more, and
this last one enters a function whose header is on the line after the call. -/
structure EntersAfter (e : Engine) (p : Program) (frame : Frame) (n : Nat) : Prop where
  under_way : ∀ j ≤ n, frame :: e.stack <:+ (e.steps (j + 1)).state.stack
  entered : ∃ name, p.functionLine? name = some frame.returnLine ∧
    (e.steps (n + 1)).state.position =
      ⟨⟨name, (e.steps n).state.cursor⟩ :: (e.steps n).state.stack, frame.returnLine⟩

/-- The steps to a first stop are a path, if the first of them enters a function. -/
theorem FirstStop.path {halt : Engine → Bool} (hp : e.program? = some p) (hin : e.Enters)
    (hstop : e.FirstStop halt n) (herr : (e.steps n).error? = none) :
    Position.Path p n fun i => (e.steps i).state.position := by
  refine path_of_steps hp ?_ herr
  intro j hj
  cases j with
  | zero => exact atEnd_of_enters hp hin.2
  | succ j => exact (ending?_eq_none_iff.1 (hstop.goes (j + 1) j.succ_pos hj).1).2.2

/-- In a flat program, a call comes to its first stop by its return, or by entering a function
whose header is on the line after it. -/
theorem returns_or_enters_of_firstStop (hflat : p.Flat) (hp : e.program? = some p)
    (hin : e.Enters) (hstop : e.FirstStop (fun e' => e'.cursor == e.cursor + 1) (n + 1))
    (herr : (e.steps (n + 1)).error? = none) (hok : (e.steps (n + 1)).state.succeeded) :
    ∃ frame, p.read e.cursor = .ok (.call frame.function) ∧ frame.callLine = e.cursor ∧
      (e.ReturnsAfter frame n ∨ e.EntersAfter p frame n) := by
  obtain ⟨name, header, hr, hl, hd, hentered⟩ := hin.call hp
  rw [← steps_one] at hentered
  refine ⟨⟨name, e.cursor⟩, hl, rfl, ?_⟩
  have hpath := hstop.path hp hin herr
  have hbefore : ∀ j < n, (e.steps (j + 1)).state.cursor ≠ e.cursor + 1 := by
    intro j hj
    have hno := (hstop.goes (j + 1) j.succ_pos (Nat.succ_lt_succ hj)).2
    simpa using hno
  have hunder := call_under_way hpath hentered hbefore
  have hlast : (e.steps (n + 1)).state.stack = [] ∨
      (e.steps (n + 1)).state.cursor = e.cursor + 1 := by
    rcases hstop.atEnd_or_halt herr hok with hend | hhalt
    · exact .inl ((atEnd_iff (by rw [steps_program?, hp])).1 hend).2
    · exact .inr (by simpa using hhalt)
  cases n with
  | zero =>
    -- the step that makes the call is the last one
    have hs : (e.steps 1).state.stack = ⟨name, e.cursor⟩ :: e.stack :=
      congrArg Position.stack hentered
    have hc : (e.steps 1).state.cursor = header := congrArg Position.cursor hentered
    have hcursor : header = e.cursor + 1 := hc.symm.trans (hlast.resolve_left (by simp [hs]))
    subst hcursor
    refine .inr ⟨?_, name, hd, hentered⟩
    intro j hj
    obtain rfl := Nat.le_zero.1 hj
    exact ⟨[], hs.symm⟩
  | succ n =>
    have hcall : Position.Path p (n + 1) fun i => (e.steps (i + 1)).state.position := hpath.tail
    have hbefore' : ∀ i ≤ n, (e.steps (i + 1)).state.position.cursor ≠ e.cursor + 1 := by
      intro i hi
      exact hbefore i (Nat.lt_succ_of_le hi)
    rcases hcall.returns_or_enters hflat hentered hl hd hbefore' hlast with
      ⟨hbase, hreturned⟩ | ⟨callee, hd', hsuffix, hlanded⟩
    · exact .inl ⟨hunder, hbase, hreturned⟩
    · refine .inr ⟨?_, callee, hd', hlanded⟩
      intro j hj
      rcases Nat.lt_or_eq_of_le hj with hlt | rfl
      · exact hunder j hlt
      · have hs : (e.steps (n + 1 + 1)).state.stack = _ := congrArg Position.stack hlanded
        rw [hs]
        exact hsuffix.trans (List.suffix_cons _ _)

end Engine

namespace Session

variable {limit : Nat} {s : Session} {p : Program} {line : String}

/-- The engine that a command leaves behind, started anew if the session starts over. -/
theorem execute_engine_eq (hline : line ≠ "") (ha : s.awaitingSource = false) :
    (s.execute line).state.engine =
      if s.resets line then (s.dispatch line).state.engine.restarted
      else (s.dispatch line).state.engine := by
  have hresets : s.resets line = endsRun (s.dispatch line) := by simp [resets, hline, ha]
  rw [execute_of_ne_empty hline ha, settle, hresets]
  split <;> rfl

/-- A step over that enters a function and neither fails nor misses a variable goes to the first
stop, and starts over exactly at the end of the program. -/
theorem Reachable.stepOver_to_firstStop (h : Reachable limit s) (ha : s.awaitingSource = false)
    (hparse : Command.parse line = .ok (some .stepOver)) (hp : s.engine.program? = some p)
    (hin : s.engine.Enters) (herr : (s.execute line).error? = none)
    (hfound : .variableMissing ∉ (s.execute line).events) :
    ∃ n, s.engine.FirstStop (fun e => e.cursor == s.engine.cursor + 1) (n + 1) ∧
      (s.engine.steps (n + 1)).error? = none ∧ (s.engine.steps (n + 1)).state.succeeded ∧
        (s.dispatch line).state.engine = (s.engine.steps (n + 1)).state ∧
          (s.resets line ↔ (s.engine.steps (n + 1)).state.atEnd) := by
  have hline := ne_empty_of_parse hparse
  obtain ⟨k, -, hstop, hgo⟩ :=
    Engine.exists_firstStop (fun e => e.cursor == s.engine.cursor + 1) hp
  obtain ⟨n, rfl⟩ := Nat.exists_eq_add_one_of_ne_zero (Nat.ne_of_gt hstop.pos)
  have hreflects := stepOver_reflects_go hp hin.1 hin.2
  rw [hgo] at hreflects
  have hsteps : (s.engine.steps (n + 1)).error? = none := by
    rw [execute_of_ne_empty hline ha, settle_error?, dispatch_of_parse hparse, outcome_error?,
      Option.map_eq_none_iff] at herr
    exact hreflects.error?.symm.trans herr
  have hok : (s.engine.steps (n + 1)).state.succeeded := by
    rw [variableMissing_iff_of_reflects h.settled.succeeded ha hparse hreflects] at hfound
    simpa using hfound
  refine ⟨n, hstop, hsteps, hok, ?_, ?_⟩
  · rw [dispatch_of_parse hparse]
    exact congrArg Session.engine hreflects.state
  · rw [resets_of_reflects ha hparse hreflects, Engine.ending?, hsteps, Engine.isSome_ended?]
    simp [hok]

/-- **Where a step over ends in a flat program.** A step over that enters a function and neither
fails nor misses a variable makes some number of steps, and with the last of them it returns from
the call, or enters a function whose header is on the line after the call. In the first case the
session starts over exactly if no call was under way before and the line after the call is behind
the last line. In the second case it does not start over. -/
theorem Reachable.stepOver_returns_or_enters (h : Reachable limit s)
    (ha : s.awaitingSource = false) (hparse : Command.parse line = .ok (some .stepOver))
    (hp : s.engine.program? = some p) (hflat : p.Flat) (hin : s.engine.Enters)
    (herr : (s.execute line).error? = none)
    (hfound : .variableMissing ∉ (s.execute line).events) :
    ∃ frame n, p.read s.engine.cursor = .ok (.call frame.function) ∧
      frame.callLine = s.engine.cursor ∧
        (s.execute line).state.engine =
            (if s.resets line then (s.engine.steps (n + 1)).state.restarted
              else (s.engine.steps (n + 1)).state) ∧
          (s.engine.ReturnsAfter frame n ∧
              (s.resets line ↔ s.engine.stack = [] ∧ p.size ≤ s.engine.cursor + 1) ∨
            s.engine.EntersAfter p frame n ∧ s.resets line = false) := by
  obtain ⟨n, hstop, hsteps, hok, hengine, hresets⟩ :=
    h.stepOver_to_firstStop ha hparse hp hin herr hfound
  obtain ⟨frame, hl, hcallLine, hways⟩ :=
    Engine.returns_or_enters_of_firstStop hflat hp hin hstop hsteps hok
  have hend := Engine.atEnd_iff (e := (s.engine.steps (n + 1)).state)
    (by rw [Engine.steps_program?, hp])
  refine ⟨frame, n, hl, hcallLine, ?_, ?_⟩
  · rw [execute_engine_eq (ne_empty_of_parse hparse) ha, hengine]
  rcases hways with hreturns | henters
  · refine .inl ⟨hreturns, ?_⟩
    have hs : (s.engine.steps (n + 1)).state.stack = s.engine.stack :=
      congrArg Position.stack hreturns.returned
    have hc : (s.engine.steps (n + 1)).state.cursor = s.engine.cursor + 1 :=
      (congrArg Position.cursor hreturns.returned).trans (congrArg Nat.succ hcallLine)
    rw [hresets, hend, hs, hc, and_comm]
  · refine .inr ⟨henters, ?_⟩
    obtain ⟨name, -, hentered⟩ := henters.entered
    have hs : (s.engine.steps (n + 1)).state.stack = _ := congrArg Position.stack hentered
    rw [Bool.eq_false_iff, ne_eq, hresets, hend, hs]
    rintro ⟨-, hnil⟩
    cases hnil

/-- The cursor is on a call, with the definition above it and one more line below. -/
def callBelowDefinition : Session :=
  (((initial 1000).load "def f\n    set a 1\ncall f\nprint a").state.execute "step").state

theorem reachable_callBelowDefinition : Reachable 1000 callBelowDefinition :=
  .execute _ (.load _ .initial)

/-- The step over enters the function, passes its header and its only line, and returns. -/
theorem stepOver_callBelowDefinition :
    callBelowDefinition.resets "step over" = false ∧
      (callBelowDefinition.execute "step over").error? = none ∧
        .variableMissing ∉ (callBelowDefinition.execute "step over").events := by
  have hp : callBelowDefinition.engine.program? =
      some (.ofSource "def f\n    set a 1\ncall f\nprint a") := rfl
  have hending : Engine.ending? (callBelowDefinition.engine.steps 4) = none := by decide
  have hgo : (callBelowDefinition.engine.go fun e =>
      e.cursor == callBelowDefinition.engine.cursor + 1) = callBelowDefinition.engine.steps 4 := by
    refine Engine.go_eq_steps_of_first hp (.inr (by decide)) ?_
    intro j hj
    have hcases : j = 0 ∨ j = 1 ∨ j = 2 := by omega
    rcases hcases with rfl | rfl | rfl <;> exact ⟨by decide, by decide⟩
  have hreflects : Reflects callBelowDefinition (callBelowDefinition.perform .stepOver)
      (callBelowDefinition.engine.steps 4) :=
    hgo ▸ stepOver_reflects_go hp (by decide) (by decide)
  have hparse : Command.parse "step over" = .ok (some .stepOver) := rfl
  refine ⟨?_, (execute_of_reflects rfl hparse hreflects hending).1, ?_⟩
  · rw [resets_of_reflects rfl hparse hreflects, hending]
    rfl
  · rw [variableMissing_iff_of_reflects rfl rfl hparse hreflects]
    decide

theorem stepOver_callBelowDefinition_ends :
    let s := callBelowDefinition
    let p := Program.ofSource "def f\n    set a 1\ncall f\nprint a"
    Reachable 1000 s ∧ s.awaitingSource = false ∧
      Command.parse "step over" = .ok (some .stepOver) ∧ s.engine.program? = some p ∧ p.Flat ∧
        s.engine.Enters ∧ (s.execute "step over").error? = none ∧
          .variableMissing ∉ (s.execute "step over").events ∧
            ∃ frame n, p.read s.engine.cursor = .ok (.call frame.function) ∧
              (s.execute "step over").state.engine = (s.engine.steps (n + 1)).state ∧
                (s.engine.ReturnsAfter frame n ∨ s.engine.EntersAfter p frame n) := by
  obtain ⟨hstays, herr, hfound⟩ := stepOver_callBelowDefinition
  have h := reachable_callBelowDefinition
  have hflat : (Program.ofSource "def f\n    set a 1\ncall f\nprint a").Flat := by decide
  have hin : callBelowDefinition.engine.Enters := by decide
  obtain ⟨frame, n, hl, -, hengine, hways⟩ :=
    h.stepOver_returns_or_enters rfl rfl rfl hflat hin herr hfound
  rw [hstays] at hengine
  exact ⟨h, rfl, rfl, rfl, hflat, hin, herr, hfound, frame, n, hl, hengine,
    hways.imp And.left And.left⟩

end Session

end LineDebugger
