import LineDebugger.Proofs.Session.Command
import LineDebugger.Proofs.Structured.Basic

/-!
# The machine carries out blocks

The engine, left alone, does what the structured reading of the program says. The simulation is an
equation between reports. What the engine still has to do falls into two parts: the lines that are
left of the activation it is in, and what follows when that activation is over. The first part is
`Structured.exec` of those lines, and the second is `onReturn` of the call stack.

The lines left of an activation are read off the position: from the cursor to the end of the block
in a call, and to the end of the program outside of calls (`Pending`). In a call the cursor has to
be past the header of the function; for then a place that is no body line can only be a return.

## Main definitions

* `Engine.rest` — the report of all that an engine still has to do
* `Structured.Pending` — the lines left of the activation at a position

## Main results

* `Structured.rest_eq_exec` — an engine carries out the pending lines and then what follows them
* `Session.run_eq_structured` — a run without breakpoints is the structured run
-/

namespace LineDebugger

variable {p : Program} {e : Engine}

/-! ### What is left to do -/

/-- The report of an outcome of the engine. -/
def Report.ofEngine (o : Outcome Engine ProgramError) : Report := .ofOutcome (o.map (·.interpreter))

/-- An execution that has come to an ending reports it. -/
theorem Report.ending?_eq {o : Outcome Engine ProgramError} (h : (Engine.ending? o).isSome) :
    Engine.ending? o = some (ofEngine o).ending := by
  rw [Engine.ending?, Engine.ended?] at h ⊢
  rw [ofEngine, ofOutcome, Outcome.map_error?]
  cases herr : o.error? with
  | some error => rfl
  | none =>
    rw [herr] at h
    by_cases hok : o.state.succeeded
    · by_cases hend : o.state.atEnd
      · have hok' : o.state.interpreter.succeeded = true := hok
        simp [hok, hok', hend]
      · simp [hok, hend] at h
    · have hok' : ¬o.state.interpreter.succeeded = true := hok
      simp [hok, hok']

/-- The report of all that the engine still has to do, with nothing to stop it but an ending. -/
def Engine.rest (e : Engine) : Report := .ofEngine (e.advance (fun _ => false) #[])

theorem Engine.rest_of_atEnd (hp : e.program? = some p) (hend : e.atEnd) (hok : e.succeeded) :
    e.rest = .finished e.interpreter.memory := by
  have hok' : e.interpreter.succeeded = true := hok
  rw [rest, advance_of_stop (.inl (by rw [idle_of_program? hp, hend]))]
  simp [Report.ofEngine, Report.ofOutcome, Report.finished, hok', outputs]

/-- What is left to do is a step and what is left to do after it. -/
theorem Engine.rest_of_step (hp : e.program? = some p) (hend : e.atEnd = false)
    (hok : e.succeeded) :
    e.rest = (Report.ofEngine e.step).andThen fun _ => e.step.state.rest := by
  rw [rest, advance_eq_step (by rw [idle_of_program? hp, hend]) hok rfl]
  cases herr : e.step.error? with
  | some error =>
    rw [Outcome.andThen_of_error? herr]
    simp [Report.ofEngine, Report.ofOutcome, Report.andThen, herr]
  | none =>
    rw [Outcome.andThen_of_success herr]
    cases hok' : e.step.state.interpreter.succeeded with
    | false =>
      rw [advance_of_stop (.inr (.inl hok'))]
      simp [Report.ofEngine, Report.ofOutcome, Report.andThen, herr, hok']
    | true =>
      simp only [Report.ofEngine, Report.ofOutcome, Report.andThen, herr, hok', rest,
        Outcome.map_state, Outcome.map_events, Outcome.map_error?, Outcome.after_state,
        Outcome.after_events, Outcome.after_error?, outputs_append, if_true]
      rfl

/-- A step that neither fails nor puts anything out leaves all there is to do to its successor. -/
theorem Engine.rest_of_silent_step {next : Engine} {events : List Event} (hp : e.program? = some p)
    (hend : e.atEnd = false) (hok : e.succeeded) (hstep : e.step = .done next events)
    (hout : outputs events = []) (hnext : next.succeeded) : e.rest = next.rest := by
  have hnext' : next.interpreter.succeeded = true := hnext
  rw [rest_of_step hp hend hok, hstep]
  simp [Report.ofEngine, Report.ofOutcome, Report.andThen, hnext', hout]

namespace Structured

/-- An engine at a position, with nothing missing so far. -/
def running (p : Program) (limit : Nat) (stack : List Frame) (cursor : Nat) (memory : Memory) :
    Engine :=
  ⟨some p, stack, cursor, ⟨memory, true⟩, limit⟩

section

variable {limit cursor : Nat} {stack : List Frame} {memory : Memory}

@[simp] theorem running_program? : (running p limit stack cursor memory).program? = some p := rfl

@[simp] theorem running_succeeded : (running p limit stack cursor memory).succeeded = true := rfl

theorem eq_running_of_succeeded {i : Interpreter} (h : i.succeeded) :
    ⟨some p, stack, cursor, i, limit⟩ = running p limit stack cursor i.memory := by
  obtain ⟨memory, succeeded⟩ := i
  cases h
  rfl

end

/-- What follows when the activation on top of the call stack is over: nothing outside of calls,
and in a call all that is left after the return. -/
def onReturn (p : Program) (limit : Nat) : List Frame → Memory → Report
  | [] => .finished
  | frame :: outer => fun memory => (running p limit outer frame.returnLine memory).rest

/-! ### Pending lines -/

/-- The lines left of the activation on top of the call stack, when the cursor is inside of it. -/
def Pending (p : Program) : List Frame → Nat → Numbered → Prop
  | [], cursor, rest => rest = p.lines.toList.zipIdx.drop cursor
  | frame :: _, cursor, rest =>
    (∃ header, p.functionLine? frame.function = some header ∧ header < cursor) ∧
      rest = (p.lines.toList.zipIdx.drop cursor).takeWhile isBody

variable {stack : List Frame} {cursor index limit depth : Nat} {text : String} {rest : Numbered}
  {memory : Memory}

theorem drop_zipIdx_of_lt (h : cursor < p.lines.toList.length) :
    p.lines.toList.zipIdx.drop cursor =
      (p.lines.toList[cursor], cursor) :: p.lines.toList.zipIdx.drop (cursor + 1) := by
  rw [List.drop_eq_getElem_cons (by simpa using h)]
  simp

theorem drop_zipIdx_of_size_le (h : p.size ≤ cursor) : p.lines.toList.zipIdx.drop cursor = [] :=
  List.drop_eq_nil_of_le (by simpa [Program.size] using h)

theorem isBody_getElem_iff (h : cursor < p.lines.toList.length) :
    isBody (p.lines.toList[cursor], cursor) ↔ p.isBody cursor := by
  rw [Program.isBody_iff, isBody]
  exact ⟨fun htext => ⟨h, htext⟩, fun ⟨_, htext⟩ => htext⟩

theorem takeWhile_of_isBody (h : p.isBody cursor) :
    ∃ text, p.lines[cursor]? = some text ∧
      (p.lines.toList.zipIdx.drop cursor).takeWhile isBody =
        (text, cursor) :: (p.lines.toList.zipIdx.drop (cursor + 1)).takeWhile isBody := by
  obtain ⟨hlt, -⟩ := Program.isBody_iff.1 h
  refine ⟨p.lines.toList[cursor], by simp, ?_⟩
  rw [drop_zipIdx_of_lt hlt, List.takeWhile_cons_of_pos ((isBody_getElem_iff hlt).2 h)]

theorem takeWhile_of_not_isBody (h : ¬p.isBody cursor) :
    (p.lines.toList.zipIdx.drop cursor).takeWhile isBody = [] := by
  rcases Nat.lt_or_ge cursor p.lines.toList.length with hlt | hge
  · rw [drop_zipIdx_of_lt hlt,
      List.takeWhile_cons_of_neg fun hbody => h ((isBody_getElem_iff hlt).1 hbody)]
  · rw [drop_zipIdx_of_size_le hge, List.takeWhile_nil]

/-- Passing over the body lines is going to the end of the block. -/
theorem dropWhile_drop (p : Program) (cursor : Nat) :
    (p.lines.toList.zipIdx.drop cursor).dropWhile isBody =
      p.lines.toList.zipIdx.drop (p.blockEnd cursor) := by
  by_cases h : p.isBody cursor
  · obtain ⟨hlt, -⟩ := Program.isBody_iff.1 h
    rw [Program.blockEnd_of_isBody h, ← dropWhile_drop p (cursor + 1), drop_zipIdx_of_lt hlt,
      List.dropWhile_cons_of_pos ((isBody_getElem_iff hlt).2 h)]
  · rw [Program.blockEnd_of_not_isBody h]
    rcases Nat.lt_or_ge cursor p.lines.toList.length with hlt | hge
    · rw [drop_zipIdx_of_lt hlt,
        List.dropWhile_cons_of_neg fun hbody => h ((isBody_getElem_iff hlt).1 hbody)]
    · rw [drop_zipIdx_of_size_le hge, List.dropWhile_nil]
termination_by p.size - cursor
decreasing_by have := Program.lt_size_of_isBody h; omega

/-- The first pending line is the one under the cursor, and the next step reads it. -/
theorem Pending.head (h : Pending p stack cursor ((text, index) :: rest)) :
    index = cursor ∧ p.lines[cursor]? = some text ∧ p.Reads stack cursor ∧
      Pending p stack (cursor + 1) rest := by
  cases stack with
  | nil =>
    have hlt : cursor < p.lines.toList.length := by
      by_contra hge
      rw [Pending, drop_zipIdx_of_size_le (Nat.le_of_not_lt hge)] at h
      cases h
    rw [Pending, drop_zipIdx_of_lt hlt] at h
    cases h
    exact ⟨rfl, by simp, hlt, rfl⟩
  | cons frame outer =>
    obtain ⟨⟨header, hh, hc⟩, hrest⟩ := h
    have hbody : p.isBody cursor := by
      by_contra hno
      rw [takeWhile_of_not_isBody hno] at hrest
      cases hrest
    obtain ⟨text', htext, htake⟩ := takeWhile_of_isBody hbody
    rw [htake] at hrest
    cases hrest
    refine ⟨rfl, htext, ⟨?_, hbody⟩, ⟨header, hh, Nat.lt_succ_of_lt hc⟩, rfl⟩
    intro hcur
    rw [hh] at hcur
    cases hcur
    exact absurd hc (Nat.lt_irrefl _)

/-- When nothing is pending outside of calls, the program is over. -/
theorem Pending.size_le (h : Pending p [] cursor []) : p.size ≤ cursor := by
  by_contra hlt
  rw [Pending, drop_zipIdx_of_lt (Nat.lt_of_not_le hlt)] at h
  cases h

/-- When nothing is pending in a call, the next step returns. -/
theorem Pending.leaves {frame : Frame} {outer : List Frame}
    (h : Pending p (frame :: outer) cursor []) :
    p.functionLine? frame.function ≠ some cursor ∧ ¬p.isBody cursor := by
  obtain ⟨⟨header, hh, hc⟩, hrest⟩ := h
  constructor
  · intro hcur
    rw [hh] at hcur
    cases hcur
    exact absurd hc (Nat.lt_irrefl _)
  · intro hbody
    obtain ⟨text, -, htake⟩ := takeWhile_of_isBody hbody
    rw [htake] at hrest
    cases hrest

/-- In a call, nothing is pending at the end of a block. -/
theorem Pending.blockEnd {frame : Frame} {outer : List Frame}
    (h : Pending p (frame :: outer) cursor rest) :
    Pending p (frame :: outer) (p.blockEnd cursor) [] := by
  obtain ⟨⟨header, hh, hc⟩, -⟩ := h
  exact ⟨⟨header, hh, Nat.lt_of_lt_of_le hc (p.le_blockEnd cursor)⟩,
    (takeWhile_of_not_isBody (Program.not_isBody_blockEnd cursor)).symm⟩

/-! ### Definitions -/

theorem defines_iff {name : String} {line : String × Nat} :
    defines name line ↔ FunctionTable.definedName? line.1 = some name := by
  have hiff : FunctionTable.definedName? line.1 = some name ↔
      Line.parse line.1 line.2 = .ok (.definition name) := FunctionTable.definedName?_eq_some_iff
  rw [hiff, defines]
  split
  · next other h => simp [h]
  · next h =>
    constructor
    · intro hno
      cases hno
    · intro hdef
      exact absurd hdef (h name)

/-- The function table leads to the last definition. -/
theorem lastDefinition?_eq (p : Program) (name : String) :
    lastDefinition? p.lines.toList name = p.functionLine? name := by
  rw [Program.functionLine?, p.functions_eq]
  induction p.lines.toList using List.reverseRecOn with
  | nil => rfl
  | append_singleton lines last ih =>
    rw [Program.ofLines_append_singleton, FunctionTable.getElem?_enter, ← ih]
    by_cases hdef : FunctionTable.definedName? last = some name
    · rw [if_pos hdef]
      simp [lastDefinition?, List.zipIdx_append, defines_iff.2, hdef]
    · rw [if_neg hdef]
      simp [lastDefinition?, List.zipIdx_append, defines_iff, hdef]

/-! ### The simulation -/

/-- In a call with nothing pending, what is left is what follows the call. -/
theorem rest_of_pending_nil (h : Pending p stack cursor []) :
    (running p limit stack cursor memory).rest = onReturn p limit stack memory := by
  cases stack with
  | nil =>
    have hend : (running p limit [] cursor memory).atEnd :=
      (Engine.atEnd_iff rfl).2 ⟨h.size_le, rfl⟩
    exact Engine.rest_of_atEnd rfl hend rfl
  | cons frame outer =>
    obtain ⟨hh, hb⟩ := h.leaves
    have hend : (running p limit (frame :: outer) cursor memory).atEnd = false :=
      Engine.atEnd_of_stack_ne_nil running_program? (List.cons_ne_nil _ _)
    have hstep : (running p limit (frame :: outer) cursor memory).step =
        .done (running p limit outer frame.returnLine memory) [.returned frame] :=
      Engine.step_of_leaves running_program? rfl hh hb
    exact Engine.rest_of_silent_step running_program? hend running_succeeded hstep rfl
      running_succeeded

/-- The next step reads the first pending line. -/
theorem step_of_pending (limit : Nat) (memory : Memory)
    (h : Pending p stack cursor ((text, index) :: rest)) :
    (running p limit stack cursor memory).step = (running p limit stack cursor memory).stepLine p ∧
      (running p limit stack cursor memory).atEnd = false ∧
        p.read (running p limit stack cursor memory).cursor = Line.parse text index := by
  obtain ⟨rfl, htext, hr, -⟩ := h.head
  exact ⟨Engine.step_of_reads running_program? hr,
    Engine.atEnd_of_cursor_lt running_program? hr.lt_size, Program.read_of_getElem? htext⟩

/-- If the step on the first pending line fails where it stands, nothing else is left to do. -/
theorem rest_of_failing_line {error : ProgramError}
    (h : Pending p stack cursor ((text, index) :: rest))
    (hline : (running p limit stack cursor memory).stepLine p =
      .fail (running p limit stack cursor memory) error) :
    (running p limit stack cursor memory).rest = .failed memory error := by
  obtain ⟨hstep, hend, -⟩ := step_of_pending limit memory h
  rw [Engine.rest_of_step running_program? hend running_succeeded, hstep, hline]
  rfl

/-- A definition is passed over with its block, and nothing else happens. -/
theorem rest_of_definition {name : String} (h : Pending p stack cursor ((text, index) :: rest))
    (hline : Line.parse text index = .ok (.definition name)) :
    (running p limit stack cursor memory).rest =
      (running p limit stack (p.blockEnd (cursor + 1)) memory).rest := by
  obtain ⟨hstep, hend, hread⟩ := step_of_pending limit memory h
  have hskip : (running p limit stack cursor memory).step =
      .done (running p limit stack (p.blockEnd (cursor + 1)) memory) [] := by
    rw [hstep]
    exact Engine.stepLine_of_definition (hread.trans hline)
  exact Engine.rest_of_silent_step running_program? hend running_succeeded hskip rfl
    running_succeeded

/-- After a call that can be made come the block of the function and the line after the call. -/
theorem rest_of_call {name : String} {header : Nat}
    (h : Pending p stack cursor ((text, index) :: rest))
    (hline : Line.parse text index = .ok (.call name)) (hd : p.functionLine? name = some header)
    (hlimit : stack.length < limit) :
    (running p limit stack cursor memory).rest =
      (running p limit (⟨name, cursor⟩ :: stack) (header + 1) memory).rest := by
  obtain ⟨hstep, hend, hread⟩ := step_of_pending limit memory h
  have henter : (running p limit stack cursor memory).step =
      .done (running p limit (⟨name, cursor⟩ :: stack) header memory)
        [.called ⟨name, cursor⟩ header] := by
    rw [hstep, Engine.stepLine_of_call (hread.trans hline)]
    exact Engine.enter_of_lt_limit hd hlimit
  have hheader : (running p limit (⟨name, cursor⟩ :: stack) header memory).step =
      .done (running p limit (⟨name, cursor⟩ :: stack) (header + 1) memory) [] :=
    Engine.step_of_header running_program? rfl hd
  rw [Engine.rest_of_silent_step running_program? hend running_succeeded henter rfl
    running_succeeded]
  exact Engine.rest_of_silent_step running_program?
    (Engine.atEnd_of_stack_ne_nil running_program? (List.cons_ne_nil _ _)) running_succeeded
    hheader rfl running_succeeded

/-- A statement is carried out, and then the line after it is next. -/
theorem rest_of_statement {s : Statement} (h : Pending p stack cursor ((text, index) :: rest))
    (hline : Line.parse text index = .ok (.statement s)) :
    (running p limit stack cursor memory).rest =
      (execStatement s memory).andThen fun memory =>
        (running p limit stack (cursor + 1) memory).rest := by
  obtain ⟨hstep, hend, hread⟩ := step_of_pending limit memory h
  rw [Engine.rest_of_step running_program? hend running_succeeded, hstep,
    Engine.stepLine_of_statement (hread.trans hline)]
  refine Report.andThen_congr fun hfin => ?_
  obtain ⟨-, hok⟩ := Report.ofOutcome_finished hfin
  exact congrArg Engine.rest (eq_running_of_succeeded hok)

/-- An engine carries out the lines that are pending, and then what follows them. -/
theorem rest_eq_exec (hd : stack.length = depth) (h : Pending p stack cursor rest) :
    (running p limit stack cursor memory).rest =
      (exec p.lines.toList limit depth rest memory).andThen (onReturn p limit stack) := by
  -- one case for each thing that a line can be; a call uses the hypothesis twice, once for the
  -- block of the function and once for the lines behind the call
  fun_induction exec p.lines.toList limit depth rest memory generalizing stack cursor with
  | case1 depth memory => exact rest_of_pending_nil h
  | case2 depth text index rest memory error hline =>
    obtain ⟨-, -, hread⟩ := step_of_pending limit memory h
    exact rest_of_failing_line h (Engine.stepLine_of_error (hread.trans hline))
  | case3 text index rest memory name hline ih =>
    obtain rfl := List.length_eq_zero_iff.1 hd
    obtain ⟨-, -, -, htail⟩ := h.head
    rw [rest_of_definition h hline]
    exact ih hd (by rw [htail, dropWhile_drop]; rfl)
  | case4 depth text index rest memory name hline hdepth =>
    obtain ⟨-, -, -, htail⟩ := h.head
    rw [rest_of_definition h hline]
    cases stack with
    | nil => exact absurd hd.symm hdepth
    | cons frame outer => exact rest_of_pending_nil htail.blockEnd
  | case5 depth text index rest memory s hline ih =>
    obtain ⟨-, -, -, htail⟩ := h.head
    rw [rest_of_statement h hline, Report.andThen_assoc]
    exact congrArg _ (funext fun memory => ih memory hd htail)
  | case6 depth text index rest memory name hline hname =>
    obtain ⟨rfl, -⟩ := h.head
    obtain ⟨-, -, hread⟩ := step_of_pending limit memory h
    refine rest_of_failing_line h ?_
    rw [Engine.stepLine_of_call (hread.trans hline)]
    exact Engine.enter_of_unknown (by rw [← lastDefinition?_eq, hname])
  | case7 depth text index rest memory name hline header hname hlimit =>
    obtain ⟨rfl, -⟩ := h.head
    obtain ⟨-, -, hread⟩ := step_of_pending limit memory h
    refine rest_of_failing_line h ?_
    rw [Engine.stepLine_of_call (hread.trans hline)]
    rw [lastDefinition?_eq] at hname
    exact Engine.enter_of_limit_le hname (hd ▸ hlimit)
  | case8 depth text index rest memory name hline header hname hlimit ihblock ihrest =>
    obtain ⟨-, -, -, htail⟩ := h.head
    rw [lastDefinition?_eq] at hname
    rw [rest_of_call h hline hname (by omega), ihblock (by rw [List.length_cons, hd]) ?_,
      Report.andThen_assoc]
    · exact congrArg _ (funext fun memory => ihrest memory hd htail)
    · exact ⟨⟨header, hname, Nat.lt_succ_self _⟩, rfl⟩

end Structured

/-! ### Runs without breakpoints -/

/-- Where nothing else stops it, an engine that had nothing missing may as well step first. -/
theorem Engine.go_eq_advance {halt : Engine → Bool} (hp : e.program? = some p) (hok : e.succeeded)
    (hhalt : ∀ e, halt e = false) : e.go halt = e.advance halt #[] := by
  cases hend : e.atEnd with
  | true => rw [go, step_of_atEnd hp hend, Outcome.quiet_andThen]
  | false => exact (advance_eq_step (by rw [idle_of_program? hp, hend]) hok (hhalt e)).symm

/-- The error that an execution ended with, if it ended with one. -/
def Ending.error? : Ending → Option ProgramError
  | failed error => some error
  | _ => none

theorem Session.error?_of_ending? {o : Outcome Session ProgramError} {ending : Ending}
    (h : Session.ending? (o.mapError .program) = some ending) :
    (o.mapError CommandError.program).error? = ending.error?.map .program := by
  rw [Session.ending?] at h
  rw [Outcome.mapError] at h ⊢
  cases herr : o.error? with
  | some error =>
    rw [herr] at h
    cases h
    rfl
  | none =>
    rw [herr] at h
    dsimp only [Option.map_none] at h ⊢
    rw [Engine.ended?] at h
    split at h
    · cases h
      rfl
    · split at h
      · cases h
        rfl
      · cases h

/-- **A run without breakpoints is the structured run.** On a freshly loaded program it puts out
the same lines, comes to the same ending with the same memory, and so reports the same error. -/
theorem Session.run_eq_structured (s : Session) (source : String) (hb : s.breakpoints = .empty)
    (ha : s.awaitingSource = false) :
    let loaded := (s.load source).state
    let report := Structured.run source s.engine.depthLimit
    outputs (loaded.execute "run").events = report.output ∧
      (loaded.execute "run").error? = report.ending.error?.map .program ∧
        Session.ending? (loaded.dispatch "run") = some report.ending ∧
          (loaded.dispatch "run").state.engine.interpreter.memory = report.memory := by
  intro loaded report
  have hparse : Command.parse "run" = .ok (some .run) := rfl
  have hloaded : loaded.awaitingSource = false := ha
  let p := Program.ofSource source
  let start := Structured.running p s.engine.depthLimit [] 0 .empty
  have hengine : loaded.engine = start := rfl
  have hp : loaded.engine.program? = some p := rfl
  -- with no breakpoint set, the run is all that is left to do
  have hgo : (loaded.engine.go fun e => loaded.breakpoints.contains e.cursor) =
      start.advance (fun _ => false) #[] := by
    have hhalt : (fun e : Engine => loaded.breakpoints.contains e.cursor) = fun _ => false :=
      funext fun e => (congrArg (Breakpoints.contains · e.cursor) hb).trans
        (Breakpoints.contains_empty _)
    rw [hhalt, hengine]
    exact Engine.go_eq_advance rfl rfl fun _ => rfl
  have hrest : start.rest = report := by
    have hpending : Structured.Pending p [] 0 p.lines.toList.zipIdx := rfl
    exact (Structured.rest_eq_exec rfl hpending).trans (Report.andThen_finished _)
  have hreflects := Session.run_reflects hp
  rw [hgo] at hreflects
  have hending : Session.ending? (loaded.outcome .run) = some report.ending := by
    rw [outcome, perform, hreflects.ending?, Report.ending?_eq, ← hrest]
    · rfl
    · have hstart : start.program? = some p := rfl
      obtain ⟨k, hk, hreason, -⟩ := Engine.advance_eq_steps (fun _ => false) hstart
      rw [hk]
      exact hreason.resolve_right Bool.false_ne_true
  rw [Session.execute_of_parse hloaded hparse, Session.dispatch_of_parse hparse,
    Session.outputs_settle, Session.settle_error?]
  refine ⟨?_, Session.error?_of_ending? hending, hending, ?_⟩
  · rw [← hrest]
    exact hreflects.outputs
  · rw [← hrest, outcome, perform, Outcome.mapError, hreflects.state]
    rfl

/-- A function that calls itself without end exceeds the limit on calls. -/
theorem Session.run_endless_recursion :
    let loaded := ((Session.initial 2).load "def f\n    call f\ncall f").state
    (Session.initial 2).breakpoints = .empty ∧ (Session.initial 2).awaitingSource = false ∧
      (loaded.execute "run").error? = some (.program (.depthExceeded 2 1)) := by
  refine ⟨rfl, rfl, (run_eq_structured (Session.initial 2) _ rfl rfl).2.1.trans ?_⟩
  let lines := ["def f", "    call f", "call f"]
  have hlines : sourceLines "def f\n    call f\ncall f" = lines := by decide
  have hdefinition : Line.parse "def f" 0 = .ok (.definition "f") := rfl
  have hinner : Line.parse "    call f" 1 = .ok (.call "f") := rfl
  have houter : Line.parse "call f" 2 = .ok (.call "f") := rfl
  have hheader : Structured.lastDefinition? lines "f" = some 0 := rfl
  have hblock : Structured.block lines 0 = [("    call f", 1)] := rfl
  have hending : (Structured.run "def f\n    call f\ncall f" 2).ending =
      .failed (.depthExceeded 2 1) := by
    rw [Structured.run, hlines]
    simp [lines, Structured.exec, hdefinition, hinner, houter, hheader, hblock,
      Structured.isBody, isBodyLine]
    rfl
  exact congrArg (·.error?.map CommandError.program) hending

end LineDebugger
