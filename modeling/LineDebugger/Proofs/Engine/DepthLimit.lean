import LineDebugger.Proofs.Engine.Control
import LineDebugger.Proofs.Engine.Reachable

/-!
# The limit on calls

The limit on how many calls may be under way at once is looked at in one place only, when a call of
a known function is about to be made, and nothing is done with it but to refuse the call. So an
engine with another limit does the same, step by step, as long as neither of the two refuses.

To say so of operations that are put together, `Outcome.Matches` compares two outcomes and makes an
exception for errors of one kind: unless the first operation ends with such an error, the second is
the same in another view of the state. A higher limit refuses less, so for the operations of an
engine and of the same engine with a higher limit the exception has to be made on one side only.

## Main definitions

* `Outcome.Matches` — the same outcome in another view of the state, some errors excepted
* `Engine.withLimit` — the engine with another limit on calls
* `Engine.TooDeep` — the next step refuses a call for its depth
* `Engine.AtCall` — the line under the cursor is read next, and is a call

## Main results

* `Engine.tooDeep_iff` — a call is refused when as many calls are under way as allowed
* `Engine.step_withLimit` — with another limit, a step that neither limit refuses is the same
* `Engine.step_matches`, `Engine.advance_matches`, `Engine.go_matches` — so is all with a higher
  limit that the lower one does not refuse
* `Engine.Reachable.stack_length_le` — there are never more calls under way than allowed
* `Engine.Reachable.tooDeep_iff` — and as many when a call is refused
-/

namespace LineDebugger

/-! ### Operations that match -/

namespace Outcome

variable {σ τ ε δ : Type} {f : σ → σ} {excepted : ε → Bool} {o o' : Outcome σ ε}

/-- Unless the first outcome has an error that is excepted, the second is the same in another view
of the state. -/
def Matches (f : σ → σ) (excepted : ε → Bool) (o o' : Outcome σ ε) : Prop :=
  o.error?.any excepted = false → o' = o.map f

theorem Matches.of_eq (h : o' = o.map f) : Matches f excepted o o' := fun _ => h

/-- What comes first in both makes no difference. -/
theorem Matches.after (h : Matches f excepted o o') (events : List Event) :
    Matches f excepted (o.after events) (o'.after events) := by
  intro hno
  rw [h hno]
  rfl

/-- Another view of the two states shows them to match, if it is made to. -/
theorem Matches.map {g g' : σ → τ} {f' : τ → τ} (h : Matches f excepted o o')
    (hg : ∀ s, g' (f s) = f' (g s)) : Matches f' excepted (o.map g) (o'.map g') := by
  intro hno
  rw [h hno, Outcome.map, Outcome.map, Outcome.map, Outcome.map, mk.injEq]
  exact ⟨hg _, rfl, rfl⟩

/-- Another view of the errors makes the same exceptions, if it is made to. -/
theorem Matches.mapError {g : ε → δ} {excepted' : δ → Bool} (h : Matches f excepted o o')
    (hg : ∀ error, excepted' (g error) = excepted error) :
    Matches f excepted' (o.mapError g) (o'.mapError g) := by
  intro hno
  have hno' : o.error?.any excepted = false := by
    rw [← hno, Outcome.mapError, Option.any_map]
    congr
    exact funext fun error => (hg error).symm
  rw [h hno']
  rfl

/-- Operations that go on from states that match have outcomes that match. -/
theorem Matches.andThen {next next' : σ → Outcome σ ε} (h : Matches f excepted o o')
    (hnext : o.error? = none → Matches f excepted (next o.state) (next' (f o.state))) :
    Matches f excepted (o.andThen next) (o'.andThen next') := by
  intro hno
  cases herr : o.error? with
  | some error =>
    rw [andThen_of_error? herr] at hno ⊢
    have heq := h hno
    have herr' : o'.error? = some error := by rw [heq, map_error?, herr]
    rw [andThen_of_error? herr', heq]
  | none =>
    have heq : o' = o.map f := h (by rw [herr]; rfl)
    rw [andThen_of_success herr] at hno ⊢
    rw [heq, andThen_of_success (by rw [map_error?, herr]), map_state, hnext herr hno]
    rfl

end Outcome

open Outcome

/-- Is the error that too many calls would be under way? -/
def ProgramError.ofDepth : ProgramError → Bool
  | depthExceeded _ _ => true
  | _ => false

theorem ProgramError.any_ofDepth_iff {error? : Option ProgramError} :
    error?.any ofDepth ↔ ∃ allowed line, error? = some (.depthExceeded allowed line) := by
  rcases error? with _ | error
  · simp
  · cases error <;> simp [ofDepth]

namespace Engine

variable {e : Engine} {p : Program} {limit : Nat}

/-- The engine with another limit on calls. -/
def withLimit (e : Engine) (limit : Nat) : Engine := { e with depthLimit := limit }

/-! ### When a call is refused -/

/-- The next step refuses a call because too many are under way. -/
def TooDeep (e : Engine) : Prop := e.step.error?.any ProgramError.ofDepth

theorem step_error?_depth_iff (hp : e.program? = some p) {allowed line : Nat} :
    e.step.error? = some (.depthExceeded allowed line) ↔
      (∃ name header, p.Reads e.stack e.cursor ∧ p.read e.cursor = .ok (.call name) ∧
        p.functionLine? name = some header ∧ e.depthLimit ≤ e.stack.length) ∧
          allowed = e.depthLimit ∧ line = e.cursor := by
  have hcontrol : (ProgramError.depthExceeded allowed line).ofControl := rfl
  rw [← and_iff_left (a := e.step.error? = some _) hcontrol, step_control_iff hp]
  constructor
  · intro h
    cases h with
    | unreadable hr hl =>
      obtain ⟨fault, hmalformed, -⟩ := Program.malformed_of_read hl
      cases hmalformed
    | tooDeep hr hl hd hlimit => exact ⟨⟨_, _, hr, hl, hd, hlimit⟩, rfl, rfl⟩
  · rintro ⟨⟨name, header, hr, hl, hd, hlimit⟩, rfl, rfl⟩
    exact .tooDeep hr hl hd hlimit

/-- A call is refused for its depth if it is a call of a known function, and as many calls as
allowed are under way. -/
theorem tooDeep_iff (hp : e.program? = some p) :
    e.TooDeep ↔ ∃ name header, p.Reads e.stack e.cursor ∧ p.read e.cursor = .ok (.call name) ∧
      p.functionLine? name = some header ∧ e.depthLimit ≤ e.stack.length := by
  rw [TooDeep, ProgramError.any_ofDepth_iff]
  constructor
  · rintro ⟨allowed, line, herr⟩
    exact ((step_error?_depth_iff hp).1 herr).1
  · intro h
    exact ⟨_, _, (step_error?_depth_iff hp).2 ⟨h, rfl, rfl⟩⟩

/-- A higher limit refuses less. -/
theorem TooDeep.of_withLimit (hp : e.program? = some p) (hle : e.depthLimit ≤ limit)
    (h : (e.withLimit limit).TooDeep) : e.TooDeep := by
  obtain ⟨name, header, hr, hl, hd, hlimit⟩ := (tooDeep_iff (e := e.withLimit limit) hp).1 h
  exact (tooDeep_iff hp).2 ⟨name, header, hr, hl, hd, Nat.le_trans hle hlimit⟩

/-- A call that one limit lets pass is refused by no other that allows for it. -/
theorem not_tooDeep_withLimit (hp : e.program? = some p) (herr : e.step.error? = none)
    (hle : e.step.state.stack.length ≤ limit) : ¬(e.withLimit limit).TooDeep := by
  intro h
  obtain ⟨name, header, hr, hl, hd, hlimit⟩ := (tooDeep_iff (e := e.withLimit limit) hp).1 h
  have hmove := move_of_step hp (atEnd_of_cursor_lt hp hr.lt_size) herr
  have hentered : e.step.state.stack = ⟨name, e.cursor⟩ :: e.stack :=
    congrArg Position.stack (hmove.deterministic (.enter hr hl hd))
  rw [hentered] at hle
  exact absurd (Nat.le_trans hle hlimit) (Nat.not_succ_le_self _)

/-! ### Another limit -/

/-- With another limit a step is the same, unless one of the two refuses it for its depth. -/
theorem step_withLimit (h : ¬e.TooDeep) (h' : ¬(e.withLimit limit).TooDeep) :
    (e.withLimit limit).step = e.step.map (·.withLimit limit) := by
  cases hp : e.program? with
  | none => rw [step_of_no_program hp, step_of_no_program (e := e.withLimit limit) hp]; rfl
  | some p =>
    have hp' : (e.withLimit limit).program? = some p := hp
    rw [tooDeep_iff hp] at h
    rw [tooDeep_iff hp'] at h'
    by_cases hend : e.atEnd
    · rw [step_of_atEnd hp hend, step_of_atEnd hp' hend]
      rfl
    · rcases step_cases hp (Bool.eq_false_iff.2 hend) with
        ⟨frame, outer, hs, hh⟩ | hr | ⟨frame, outer, hs, hh, hb⟩
      · rw [step_of_header hp hs hh, step_of_header (e := e.withLimit limit) hp' hs hh]
        rfl
      · rw [step_of_reads hp hr, step_of_reads (e := e.withLimit limit) hp' hr]
        -- the limit is looked at for a call only
        rcases hl : p.read e.cursor with error | name | name | s
        · rw [stepLine_of_error hl, stepLine_of_error (e := e.withLimit limit) hl]
          rfl
        · rw [stepLine_of_definition hl, stepLine_of_definition (e := e.withLimit limit) hl]
          rfl
        · rw [stepLine_of_call hl, stepLine_of_call (e := e.withLimit limit) hl]
          cases hd : p.functionLine? name with
          | none => rw [enter_of_unknown hd, enter_of_unknown hd]; rfl
          | some header =>
            have hlt : e.stack.length < e.depthLimit :=
              Nat.lt_of_not_le fun hle => h ⟨name, header, hr, hl, hd, hle⟩
            have hlt' : e.stack.length < limit :=
              Nat.lt_of_not_le fun hle => h' ⟨name, header, hr, hl, hd, hle⟩
            rw [enter_of_lt_limit hd hlt, enter_of_lt_limit (e := e.withLimit limit) hd hlt']
            rfl
        · rw [stepLine_of_statement hl, stepLine_of_statement (e := e.withLimit limit) hl]
          rfl
      · rw [step_of_leaves hp hs hh hb, step_of_leaves (e := e.withLimit limit) hp' hs hh hb]
        rfl

/-- So many steps are the same with another limit, if they succeed and come to no more calls than
that limit allows. -/
theorem steps_withLimit {n : Nat} (hp : e.program? = some p) (herr : (e.steps n).error? = none)
    (hle : ∀ j ≤ n, (e.steps j).state.stack.length ≤ limit) :
    (e.withLimit limit).steps n = (e.steps n).map (·.withLimit limit) := by
  induction n with
  | zero => rfl
  | succ n ih =>
    have hn := steps_error?_of_le (Nat.le_succ n) herr
    have hsame := ih hn fun j hj => hle j (Nat.le_succ_of_le hj)
    have hn' : ((e.withLimit limit).steps n).error? = none := by rw [hsame, map_error?, hn]
    have hlast := hle (n + 1) (Nat.le_refl _)
    rw [step_of_steps hn, after_error?] at herr
    rw [step_of_steps hn, after_state] at hlast
    have hp' : (e.steps n).state.program? = some p := by rw [steps_program?, hp]
    have hdeep : ¬(e.steps n).state.TooDeep := by
      rw [TooDeep, herr]
      exact Bool.false_ne_true
    rw [step_of_steps hn, step_of_steps hn', hsame, map_state,
      step_withLimit hdeep (not_tooDeep_withLimit hp' herr hlast)]
    rfl

/-! ### A higher limit -/

/-- With a higher limit a step is the same, unless the lower one refuses it. -/
theorem step_matches (hle : e.depthLimit ≤ limit) :
    Matches (·.withLimit limit) ProgramError.ofDepth e.step (e.withLimit limit).step := by
  intro hno
  have hdeep : ¬e.TooDeep := Bool.eq_false_iff.1 hno
  refine step_withLimit hdeep ?_
  cases hp : e.program? with
  | none =>
    rw [TooDeep, step_of_no_program (e := e.withLimit limit) hp]
    exact Bool.false_ne_true
  | some p => exact fun h => hdeep (h.of_withLimit hp hle)

/-- With a higher limit, advancing leads to the same stop. -/
theorem advance_matches {halt : Engine → Bool} (hhalt : ∀ e, halt (e.withLimit limit) = halt e)
    (hle : e.depthLimit ≤ limit) :
    Matches (·.withLimit limit) ProgramError.ofDepth (e.advance halt #[])
      ((e.withLimit limit).advance halt #[]) := by
  -- the induction is on the bound of the steps that are left, which every step makes smaller
  induction hm : e.remaining using Nat.strongRecOn generalizing e with
  | ind m ih =>
    by_cases hstop : e.idle ∨ e.succeeded = false ∨ halt e
    · have hstop' : (e.withLimit limit).idle ∨ (e.withLimit limit).succeeded = false ∨
          halt (e.withLimit limit) := by rwa [hhalt]
      rw [advance_of_stop hstop, advance_of_stop hstop']
      exact .of_eq rfl
    · simp only [not_or, Bool.not_eq_true, Bool.not_eq_false] at hstop
      obtain ⟨hidle, hok, hgoing⟩ := hstop
      rw [advance_eq_step hidle hok hgoing, advance_eq_step (e := e.withLimit limit) hidle hok
        ((hhalt e).trans hgoing)]
      refine (step_matches hle).andThen fun herr => ?_
      exact ih _ (hm ▸ remaining_step_lt hidle herr) (by rwa [step_depthLimit]) rfl

/-- With a higher limit, going leads to the same stop. -/
theorem go_matches {halt : Engine → Bool} (hhalt : ∀ e, halt (e.withLimit limit) = halt e)
    (hle : e.depthLimit ≤ limit) :
    Matches (·.withLimit limit) ProgramError.ofDepth (e.go halt) ((e.withLimit limit).go halt) := by
  refine (step_matches hle).andThen fun _ => ?_
  exact advance_matches hhalt (by rwa [step_depthLimit])

/-! ### No more calls than allowed -/

/-- A step does not lead to more calls than allowed. -/
theorem step_stack_length_le (h : e.stack.length ≤ e.depthLimit) :
    e.step.state.stack.length ≤ e.depthLimit := by
  by_cases hlt : e.stack.length < e.step.state.stack.length
  · cases hp : e.program? with
    | none =>
      rw [step_of_no_program hp] at hlt
      exact absurd hlt (Nat.lt_irrefl _)
    | some p =>
      cases herr : e.step.error? with
      | some error =>
        have hstay : e.step.state.stack = e.stack := by
          rcases reads_of_step_error hp herr with ⟨-, hsame | ⟨i, hsame⟩⟩ <;> rw [hsame]
        exact absurd hlt (hstay ▸ Nat.lt_irrefl _)
      | none =>
        obtain ⟨name, header, hr, hl, hd, hentered⟩ :=
          (move_of_step hp (atEnd_of_enters hp hlt) herr).entered hlt
        have hstack : e.step.state.stack = ⟨name, e.cursor⟩ :: e.stack :=
          congrArg Position.stack hentered
        have hpassed : ¬e.TooDeep := by
          rw [TooDeep, herr]
          exact Bool.false_ne_true
        rw [hstack]
        exact Nat.lt_of_not_le fun hle =>
          hpassed ((tooDeep_iff hp).2 ⟨name, header, hr, hl, hd, hle⟩)
  · exact Nat.le_trans (Nat.le_of_not_lt hlt) h

/-- An engine keeps its limit. -/
theorem Reachable.depthLimit (h : Reachable limit e) : e.depthLimit = limit := by
  induction h with
  | initial => rfl
  | load source h ih => exact ih
  | reset h ih => exact ih
  | step h ih => rw [step_depthLimit, ih]

/-- There are never more calls under way than allowed. -/
theorem Reachable.stack_length_le (h : Reachable limit e) : e.stack.length ≤ limit := by
  induction h with
  | initial => exact Nat.zero_le _
  | load source h ih => exact Nat.zero_le _
  | reset h ih => exact Nat.zero_le _
  | step h ih =>
    rw [← h.depthLimit] at ih ⊢
    exact step_stack_length_le ih

/-! ### The call that is refused -/

/-- The line under the cursor is what the next step reads, and it calls this function. -/
def AtCall (e : Engine) (name : String) : Prop :=
  ∃ p, e.program? = some p ∧ p.Reads e.stack e.cursor ∧ p.read e.cursor = .ok (.call name)

/-- A step refuses a call for its depth exactly at a call of a known function with as many calls
under way as allowed. -/
theorem Reachable.tooDeep_iff (h : Reachable limit e) :
    e.TooDeep ↔ ∃ name header, e.AtCall name ∧ e.functionLine? name = some header ∧
      e.stack.length = limit := by
  have hmost := h.stack_length_le
  rw [← h.depthLimit] at hmost ⊢
  constructor
  · intro hdeep
    cases hp : e.program? with
    | none =>
      rw [TooDeep, step_of_no_program hp] at hdeep
      cases hdeep
    | some p =>
      obtain ⟨name, header, hr, hl, hd, hlimit⟩ := (Engine.tooDeep_iff hp).1 hdeep
      refine ⟨name, header, ⟨p, hp, hr, hl⟩, ?_, Nat.le_antisymm hmost hlimit⟩
      rw [functionLine?, hp, Option.bind_some, hd]
  · rintro ⟨name, header, ⟨p, hp, hr, hl⟩, hd, hlimit⟩
    rw [functionLine?, hp, Option.bind_some] at hd
    exact (Engine.tooDeep_iff hp).2 ⟨name, header, hr, hl, hd, Nat.le_of_eq hlimit.symm⟩

/-- A call that is refused for its depth changes nothing. -/
theorem TooDeep.step_eq (h : e.TooDeep) :
    e.step = .fail e (.depthExceeded e.depthLimit e.cursor) := by
  cases hp : e.program? with
  | none =>
    rw [TooDeep, step_of_no_program hp] at h
    cases h
  | some p =>
    obtain ⟨name, header, hr, hl, hd, hlimit⟩ := (tooDeep_iff hp).1 h
    exact step_of_refusal hp (.tooDeep hr hl hd hlimit)

/-- A call of a function that is not defined is an error of another kind, however many calls are
under way. -/
theorem AtCall.step_of_undefined {name : String} (h : e.AtCall name)
    (hd : e.functionLine? name = none) : e.step = .fail e (.unknownFunction name e.cursor) := by
  obtain ⟨p, hp, hr, hl⟩ := h
  rw [functionLine?, hp, Option.bind_some] at hd
  exact step_of_refusal hp (.unknown hr hl hd)

end Engine

end LineDebugger
