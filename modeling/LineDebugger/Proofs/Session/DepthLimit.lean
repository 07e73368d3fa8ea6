import LineDebugger.Proofs.Engine.DepthLimit
import LineDebugger.Proofs.Session.Inputs
import LineDebugger.Proofs.Session.StartingOver

/-!
# The limit on calls is a pure guard

Two sessions with different limits on calls go through the same history. As long as the session
with the lower limit is not refused a call for its depth, the other one gives the same answers: the
same events in the same order, the same errors, and a session that is the same but for the limit.
The first answer that ends with such a refusal is where they may part, since the session with the
higher limit can go on there.

Nothing but a refusal shows the limit. There are never more calls under way than it allows, and a
step refuses a call of a known function exactly when there are as many, with everything left as it
was. A call of a function that is not defined is an error of another kind, at any depth.

## Main definitions

* `Session.withLimit` — the session with another limit on calls
* `CommandError.ofDepth`, `Session.refused` — a command has been refused a call for its depth

## Main results

* `Session.run_matches`, `Session.stepOver_matches`, `Session.execute_matches` — with a higher limit
  a line has the same outcome, unless the lower limit is felt
* `Session.answers_before_refusal` — so have all inputs before the first one that feels it
* `Session.exists_tooDeep_of_refused` — what is refused is a step that the line makes
* `Session.depthLimit_is_pure_guard` — and it is felt with as many calls under way as it allows
-/

namespace LineDebugger

open Outcome

/-- Has the program failed because too many calls would be under way? -/
def CommandError.ofDepth : CommandError → Bool
  | program error => error.ofDepth
  | invalidBreakpoint _ => false

namespace Session

variable {s : Session} {limit : Nat}

/-- The session with another limit on calls. -/
def withLimit (s : Session) (limit : Nat) : Session :=
  { s with engine := s.engine.withLimit limit }

/-! ### Commands -/

/-- What matches of the engines matches of the sessions. -/
theorem withEngine_matches {o o' : Outcome Engine ProgramError}
    (h : Matches (·.withLimit limit) ProgramError.ofDepth o o') :
    Matches (·.withLimit limit) ProgramError.ofDepth (s.withEngine o)
      ((s.withLimit limit).withEngine o') :=
  h.map fun _ => rfl

theorem step_matches (hle : s.engine.depthLimit ≤ limit) :
    Matches (·.withLimit limit) ProgramError.ofDepth s.step (s.withLimit limit).step := by
  cases hp : s.engine.program? with
  | none =>
    have hp' : (s.withLimit limit).engine.program? = none := hp
    rw [step, step, hp, hp']
    exact .of_eq rfl
  | some p =>
    have hp' : (s.withLimit limit).engine.program? = some p := hp
    rw [step, step, hp, hp']
    exact withEngine_matches (Engine.step_matches hle)

theorem run_matches (hle : s.engine.depthLimit ≤ limit) :
    Matches (·.withLimit limit) ProgramError.ofDepth s.run (s.withLimit limit).run := by
  cases hp : s.engine.program? with
  | none =>
    have hp' : (s.withLimit limit).engine.program? = none := hp
    rw [run, run, hp, hp']
    exact .of_eq rfl
  | some p =>
    have hp' : (s.withLimit limit).engine.program? = some p := hp
    rw [run, run, hp, hp']
    refine withEngine_matches (Matches.andThen (Engine.go_matches (fun _ => rfl) hle) fun _ => ?_)
    -- whether the run is told to have stopped can be seen without the limit
    refine .of_eq ?_
    generalize (s.engine.step.andThen _).state = e
    show (if e.succeeded && !e.atEnd then Outcome.done (e.withLimit limit) _
      else Outcome.quiet (e.withLimit limit)) = _
    by_cases hstopped : e.succeeded && !e.atEnd
    · rw [if_pos hstopped, if_pos hstopped]
      rfl
    · rw [if_neg hstopped, if_neg hstopped]
      rfl

theorem step_depthLimit (s : Session) : s.step.state.engine.depthLimit = s.engine.depthLimit := by
  rw [step]
  split
  · rfl
  · exact Engine.step_depthLimit _

theorem stepOver_matches (hle : s.engine.depthLimit ≤ limit) :
    Matches (·.withLimit limit) ProgramError.ofDepth s.stepOver (s.withLimit limit).stepOver := by
  refine (step_matches hle).andThen fun _ => ?_
  have hle' : s.step.state.engine.depthLimit ≤ limit := by rwa [step_depthLimit]
  generalize s.step.state = t at hle'
  cases hs : t.engine.stack with
  | nil =>
    have hs' : (t.withLimit limit).engine.stack = [] := hs
    rw [hs']
    exact .of_eq rfl
  | cons frame outer =>
    have hs' : (t.withLimit limit).engine.stack = frame :: outer := hs
    rw [hs']
    dsimp only
    show Matches _ _ (if s.engine.stack.length < _ then _ else _)
      (if s.engine.stack.length < _ then _ else _)
    split
    · exact (withEngine_matches (Engine.advance_matches (fun _ => rfl) hle')).after _
    · exact .of_eq rfl

/-- A command that moves nothing takes no notice of the limit. -/
theorem perform_matches (hle : s.engine.depthLimit ≤ limit) (c : Command) :
    Matches (·.withLimit limit) ProgramError.ofDepth (s.perform c)
      ((s.withLimit limit).perform c) := by
  cases c with
  | run => exact run_matches hle
  | step => exact step_matches hle
  | stepOver => exact stepOver_matches hle
  | _ => exact .of_eq rfl

theorem dispatch_matches (hle : s.engine.depthLimit ≤ limit) (line : String) :
    Matches (·.withLimit limit) CommandError.ofDepth (s.dispatch line)
      ((s.withLimit limit).dispatch line) := by
  rw [dispatch, dispatch]
  split
  · exact .of_eq rfl
  · exact .of_eq rfl
  · exact (perform_matches hle _).mapError fun _ => rfl

/-- Whether the session starts over can be told without the limit. -/
theorem settle_matches {o o' : Outcome Session CommandError}
    (h : Matches (·.withLimit limit) CommandError.ofDepth o o') :
    Matches (·.withLimit limit) CommandError.ofDepth (settle o) (settle o') := by
  intro hno
  rw [settle_error?] at hno
  rw [h hno, settle, settle]
  show (if endsRun o then _ else _) = Outcome.map _ (if endsRun o then _ else _)
  split <;> rfl

theorem execute_matches (hle : s.engine.depthLimit ≤ limit) (line : String) :
    Matches (·.withLimit limit) CommandError.ofDepth (s.execute line)
      ((s.withLimit limit).execute line) := by
  by_cases hline : line = ""
  · subst hline
    exact .of_eq rfl
  · cases ha : s.awaitingSource with
    | true =>
      have ha' : (s.withLimit limit).awaitingSource = true := ha
      rw [execute, execute, if_neg hline, if_neg hline, ha, ha']
      exact .of_eq rfl
    | false =>
      have ha' : (s.withLimit limit).awaitingSource = false := ha
      rw [execute_of_ne_empty hline ha, execute_of_ne_empty hline ha']
      exact settle_matches (dispatch_matches hle line)

/-! ### Histories -/

theorem take_matches (hle : s.engine.depthLimit ≤ limit) (input : Input) :
    Matches (·.withLimit limit) CommandError.ofDepth (s.take input)
      ((s.withLimit limit).take input) := by
  cases input with
  | line text => exact execute_matches hle text
  | source text => exact .of_eq rfl

/-- A session keeps its limit. -/
theorem take_depthLimit (s : Session) (input : Input) :
    (s.take input).state.engine.depthLimit = s.engine.depthLimit := by
  cases input with
  | source text => rfl
  | line text =>
    show (s.execute text).state.engine.depthLimit = s.engine.depthLimit
    rcases execute_engine s text with ⟨n, heq | heq⟩ | heq
    · rw [heq, Engine.steps_depthLimit]
    · rw [heq]
      exact Engine.steps_depthLimit n s.engine
    · rw [heq]
      rfl

/-- Was the input refused a call for its depth? -/
def refused (o : Outcome Session CommandError) : Bool := o.error?.any CommandError.ofDepth

/-- With a higher limit the answers are the same up to the first that is refused. -/
theorem answers_before_refusal (hle : s.engine.depthLimit ≤ limit) (inputs : List Input) :
    ((s.answers inputs).takeWhile fun o => !refused o).map (·.map (·.withLimit limit)) <+:
      (s.withLimit limit).answers inputs := by
  induction inputs generalizing s with
  | nil => exact List.nil_prefix
  | cons input inputs ih =>
    rw [answers_cons, answers_cons]
    by_cases hrefused : refused (s.take input)
    · rw [List.takeWhile_cons_of_neg (by simp [hrefused])]
      exact List.nil_prefix
    · rw [List.takeWhile_cons_of_pos (by simp [hrefused]), List.map_cons,
        take_matches hle input (Bool.eq_false_iff.2 hrefused), List.cons_prefix_cons]
      exact ⟨rfl, ih (by rwa [take_depthLimit])⟩

/-- A line is refused for what one of the steps it makes refuses. -/
theorem exists_tooDeep_of_refused {input : Input} (h : refused (s.take input)) :
    ∃ n, (s.engine.steps n).error? = none ∧ (s.engine.steps n).state.TooDeep := by
  cases input with
  | source text => cases h
  | line text =>
    have hline : text ≠ "" := by
      rintro rfl
      cases h
    have ha : s.awaitingSource = false := by
      by_contra hawaiting
      rw [take, execute, if_neg hline, if_pos (Bool.not_eq_false _ ▸ hawaiting)] at h
      cases h
    rw [refused, take, execute_of_ne_empty hline ha, settle_error?] at h
    rcases moves_or_still s text with ⟨c, p, hparse, hc, hp⟩ | ⟨-, hno⟩
    · obtain ⟨n, hreflects, hbefore⟩ := perform_reflects_steps hp hc
      have herr : (s.engine.steps (n + 1)).error?.any ProgramError.ofDepth := by
        rw [dispatch_of_parse hparse, outcome_error?, hreflects.error?, Option.any_map] at h
        exact h
      have hn : (s.engine.steps n).error? = none := by
        cases n with
        | zero => rfl
        | succ j => exact (Engine.ending?_eq_none_iff.1 (hbefore j (Nat.lt_succ_self j))).1
      refine ⟨n, hn, ?_⟩
      rwa [Engine.step_of_steps hn, after_error?] at herr
    · rcases herr : (s.dispatch text).error? with _ | (error | error)
      · rw [herr] at h
        cases h
      · exact absurd herr (hno error)
      · rw [herr] at h
        cases h

/-- **The limit on calls is a pure guard.** With a higher limit a session gives the same answers,
up to the first that is refused for the depth of its calls: the same events and errors, and sessions
that are the same but for the limit. There are never more calls under way than the limit allows. A
step refuses a call exactly if the function is known and as many calls are under way; that leaves
everything as it was, and it is the only reason for a line to be refused. If the function is not
known, that is reported instead, however many calls are under way. -/
theorem depthLimit_is_pure_guard {lower higher : Nat} (hle : lower ≤ higher) :
    (∀ inputs, (((initial lower).answers inputs).takeWhile fun o => !refused o).map
        (·.map (·.withLimit higher)) <+: (initial higher).answers inputs) ∧
    (∀ s, Reachable lower s → s.engine.Reachable lower ∧ ∀ input, refused (s.take input) →
      ∃ n, (s.engine.steps n).error? = none ∧ (s.engine.steps n).state.TooDeep) ∧
    ∀ e : Engine, e.Reachable lower → e.stack.length ≤ lower ∧
      (e.TooDeep ↔ ∃ name header, e.AtCall name ∧ e.functionLine? name = some header ∧
        e.stack.length = lower) ∧
      (e.TooDeep → e.step = .fail e (.depthExceeded lower e.cursor)) ∧
      ∀ name, e.AtCall name → e.functionLine? name = none →
        e.step = .fail e (.unknownFunction name e.cursor) := by
  refine ⟨fun inputs => answers_before_refusal hle inputs, ?_, ?_⟩
  · intro s h
    exact ⟨h.engine, fun input hrefused => exists_tooDeep_of_refused hrefused⟩
  · intro e h
    refine ⟨h.stack_length_le, h.tooDeep_iff, ?_, fun name hcall hd => hcall.step_of_undefined hd⟩
    intro hdeep
    rw [hdeep.step_eq, h.depthLimit]

/-- A function that calls itself, and a call of it. -/
def selfCalling : Input := .source "def f\n    call f\ncall f"

/-- With room for one call the step that makes a second one is refused. With room for two, the
inputs before it have the same answers. -/
theorem selfCalling_refused :
    let inputs := selfCalling :: List.replicate 4 (.line "step")
    let e := (((initial 1).take selfCalling).state.after (List.replicate 3 "step")).engine
    1 ≤ 2 ∧ (((initial 1).answers inputs).takeWhile fun o => !refused o).length = 4 ∧
      (((initial 1).answers inputs).takeWhile fun o => !refused o).map
        (·.map (·.withLimit 2)) <+: (initial 2).answers inputs ∧
      e.Reachable 1 ∧ e.stack.length = 1 ∧ e.step = .fail e (.depthExceeded 1 1) := by
  intro inputs e
  have he : e.Reachable 1 :=
    (Session.Reachable.execute "step" (.execute "step" (.execute "step" (.load _ .initial)))).engine
  have hle : 1 ≤ 2 := by decide
  obtain ⟨hanswers, -, hengine⟩ := depthLimit_is_pure_guard hle
  obtain ⟨-, hdeep, hfails, -⟩ := hengine e he
  have hcall : e.AtCall "f" := ⟨_, rfl, ⟨by decide +kernel, by decide +kernel⟩, by decide +kernel⟩
  exact ⟨hle, by decide +kernel, hanswers inputs, he, rfl,
    hfails (hdeep.2 ⟨"f", 0, hcall, by decide +kernel, rfl⟩)⟩

end Session

end LineDebugger
