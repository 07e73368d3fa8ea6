import LineDebugger.Proofs.Engine.Lockstep
import LineDebugger.Proofs.Session.History

/-!
# Where a step over ends

A step over that enters a function goes on until the cursor is on the line after the call, and asks
nothing about the calls under way. Mostly the cursor comes there because the function returns. But
two other moves can lead there while the function is still under way: a call of a function whose
header is the line after the call, and a jump over a definition whose block ends at that line. Such
a definition has to stand in the block of a function, and then the call itself is a line of it.

There is no third way. The line before is the call, so no header and no statement leads on from it.
A return leads there only from a call of the same function from the same line, and the only such
call that can return is the one stepped over: any other is made in its course, and runs in lockstep
behind it.

## Main definitions

* `Position.Lands` — the next move goes to a line without a return
* `Engine.Strands` — the call under the cursor is going to be abandoned on the line after it

## Main results

* `Position.Path.to_returnLine` — how a call comes to the line after it
* `Session.stepOver_deeper_iff` — when a step over ends inside the function it entered
* `Engine.not_strands` — not with a call at top level that no definition follows
-/

namespace LineDebugger

namespace Position

variable {p : Program} {n header : Nat} {frame : Frame} {base : List Frame} {pos : Nat → Position}

/-- The next move goes to this line, but not by a return: into a function defined there, or over a
definition with a block that ends there. -/
def Lands (p : Program) (a : Position) (target : Nat) : Prop :=
  p.Reads a.stack a.cursor ∧
    ((∃ name, p.read a.cursor = .ok (.call name) ∧ p.functionLine? name = some target) ∨
      ∃ name, p.read a.cursor = .ok (.definition name) ∧ p.blockEnd (a.cursor + 1) = target)

/-- A call is under way until the cursor is on the line after it. -/
theorem Path.under_way (hpath : Path p n pos) (hstart : pos 0 = ⟨frame :: base, header⟩)
    (hbefore : ∀ i ≤ n, (pos i).cursor ≠ frame.returnLine) {i : Nat} (hi : i ≤ n) :
    ∃ above cursor, pos i = ⟨above ++ frame :: base, cursor⟩ := by
  induction i with
  | zero => exact ⟨[], header, hstart⟩
  | succ i ih =>
    obtain ⟨above, cursor, ha⟩ := ih (Nat.le_of_succ_le hi)
    have hmove := hpath i hi
    rw [ha] at hmove
    rcases hmove.rebase with ⟨above', cursor', heq, -⟩ | ⟨-, heq⟩
    · exact ⟨above', cursor', heq⟩
    · exact absurd (congrArg Position.cursor heq) (hbefore (i + 1) hi)

/-- No call from the line of the first one returns before the first one does. -/
theorem Path.callLine_ne_of_leave (hpath : Path p (n + 1) pos)
    (hunder : ∀ i ≤ n + 1, ∃ above cursor, pos i = ⟨above ++ frame :: base, cursor⟩)
    (hstart : pos 0 = ⟨frame :: base, header⟩)
    (hcall : p.read frame.callLine = .ok (.call frame.function))
    (hheader : p.functionLine? frame.function = some header) {inner : Frame}
    {between : List Frame} (hinner : (pos n).stack = inner :: (between ++ frame :: base))
    (hleave : (pos (n + 1)).stack = between ++ frame :: base) :
    inner.callLine ≠ frame.callLine := by
  intro hline
  have hstack : (pos n).stack = [] ++ inner :: (between ++ frame :: base) := hinner
  obtain ⟨hl, j, hj, hentered, hat⟩ :=
    hpath.entered (congrArg stack hstart) (Nat.le_succ n) hstack
  have hfunction : inner.function = frame.function := by
    rw [hline, hcall] at hl
    exact (Line.call.inj (Except.ok.inj hl)).symm
  rw [hfunction, hheader] at hat
  have hentry : pos j = ⟨inner :: (between ++ frame :: base), header⟩ := by
    ext1
    · exact hentered
    · exact (Option.some.inj hat).symm
  obtain ⟨top, here, hstill⟩ := hpath.inner_under_way hfunction hunder hstart hentry
    (Nat.le_succ_of_le hj) (Nat.le_refl _)
  have hlen := congrArg List.length (hleave.symm.trans (congrArg stack hstill))
  simp only [List.length_append, List.length_cons] at hlen
  omega

/-- A call comes to the line after it by its return, or lands there. -/
theorem Path.to_returnLine (hpath : Path p (n + 1) pos)
    (hstart : pos 0 = ⟨frame :: base, header⟩)
    (hcall : p.read frame.callLine = .ok (.call frame.function))
    (hheader : p.functionLine? frame.function = some header)
    (hbefore : ∀ i ≤ n, (pos i).cursor ≠ frame.returnLine)
    (hstop : (pos (n + 1)).cursor = frame.returnLine) :
    pos (n + 1) = ⟨base, frame.returnLine⟩ ∨ Lands p (pos n) frame.returnLine := by
  have hunder : ∀ i ≤ n, ∃ above cursor, pos i = ⟨above ++ frame :: base, cursor⟩ := by
    intro i hi
    exact (hpath.of_le (Nat.le_succ n)).under_way hstart hbefore hi
  obtain ⟨above, index, ha⟩ := hunder n (Nat.le_refl n)
  have hmove := hpath n (Nat.lt_succ_self n)
  rw [ha] at hmove ⊢
  rcases hmove.rebase with ⟨above', cursor', heq, -⟩ | ⟨-, heq⟩
  · right
    rw [heq] at hmove hstop
    have hstop' : cursor' = frame.callLine + 1 := hstop
    generalize hstack : above ++ frame :: base = stack at hmove ha
    generalize hstack' : above' ++ frame :: base = stack' at hmove
    cases hmove with
    | header hh =>
      obtain rfl : index = frame.callLine := Nat.succ.inj hstop'
      have hdefinition := Program.read_of_functionLine? hh
      rw [hcall] at hdefinition
      cases hdefinition
    | statement hr hl =>
      obtain rfl : index = frame.callLine := Nat.succ.inj hstop'
      rw [hcall] at hl
      cases hl
    | skip hr hl => exact ⟨hr, .inr ⟨_, hl, hstop⟩⟩
    | enter hr hl hd => exact ⟨hr, .inl ⟨_, hl, hstop ▸ hd⟩⟩
    | @leave inner _ _ hh hb =>
      have hunder' : ∀ i ≤ n + 1, ∃ above cursor, pos i = ⟨above ++ frame :: base, cursor⟩ := by
        intro i hi
        rcases Nat.lt_or_eq_of_le hi with hlt | rfl
        · exact hunder i (Nat.le_of_lt_succ hlt)
        · exact ⟨above', _, heq⟩
      have hinner : (pos n).stack = inner :: (above' ++ frame :: base) := by rw [ha, hstack']
      exact absurd (Nat.succ.inj hstop')
        (hpath.callLine_ne_of_leave hunder' hstart hcall hheader hinner (congrArg stack heq))
  · exact .inl heq

/-- A move that lands makes the call stack no shorter. -/
theorem Lands.move {a : Position} {target : Nat} (h : Lands p a target) :
    ∃ stack, Move p a ⟨stack, target⟩ ∧ a.stack.length ≤ stack.length := by
  obtain ⟨stack, index⟩ := a
  obtain ⟨hr, ⟨name, hl, hd⟩ | ⟨name, hl, rfl⟩⟩ := h
  · exact ⟨_, .enter hr hl hd, Nat.le_succ _⟩
  · exact ⟨_, .skip hr hl, Nat.le_refl _⟩

end Position

namespace Engine

variable {e : Engine} {p : Program} {frame : Frame} {n header : Nat}

/-- The call that the first step makes is under way until the cursor is on the line after it. -/
theorem call_under_way
    (hpath : Position.Path p (n + 1) fun i => (e.steps i).state.position)
    (hstart : (e.steps 1).state.position = ⟨frame :: e.stack, header⟩)
    (hbefore : ∀ j < n, (e.steps (j + 1)).state.cursor ≠ frame.returnLine) :
    ∀ j < n, frame :: e.stack <:+ (e.steps (j + 1)).state.stack := by
  intro j hj
  -- the path of the call starts with its first step
  have hcall : Position.Path p j fun i => (e.steps (i + 1)).state.position :=
    hpath.tail.of_le (Nat.le_of_lt hj)
  have hbefore' : ∀ i ≤ j, (e.steps (i + 1)).state.position.cursor ≠ frame.returnLine := by
    intro i hi
    exact hbefore i (Nat.lt_of_le_of_lt hi hj)
  obtain ⟨above, here, hunder⟩ := hcall.under_way hstart hbefore' (Nat.le_refl j)
  have hs : (e.steps (j + 1)).state.stack = above ++ frame :: e.stack :=
    congrArg Position.stack hunder
  rw [hs]
  exact List.suffix_append _ _

/-- The call under the cursor is going to be abandoned: while it is under way, a step lands on the
line after it. -/
def Strands (e : Engine) (p : Program) : Prop :=
  (∃ name, p.read e.cursor = .ok (.call name)) ∧
    ∃ k, (∀ j < k, e.stack.length < (e.steps (j + 1)).state.stack.length) ∧
      Position.Lands p (e.steps k).state.position (e.cursor + 1)

/-- The first steps to the line after a call have not returned from it exactly if it strands. -/
theorem deeper_iff_strands (hp : e.program? = some p)
    (hin : e.stack.length < (e.steps 1).state.stack.length)
    (hgoing : ∀ j < n + 1, (e.steps j).state.atEnd = false)
    (herr : (e.steps (n + 1)).error? = none)
    (hbefore : ∀ j < n, (e.steps (j + 1)).state.cursor ≠ e.cursor + 1)
    (hstop : (e.steps (n + 1)).state.cursor = e.cursor + 1) :
    e.stack.length < (e.steps (n + 1)).state.stack.length ↔ e.Strands p := by
  have hpath := path_of_steps hp hgoing herr
  obtain ⟨name, header, hr, hl, hd, hentered⟩ := (hpath 0 (Nat.succ_pos n)).entered hin
  have hpos : (e.steps 1).state.position = ⟨⟨name, e.cursor⟩ :: e.stack, header⟩ := hentered
  constructor
  · intro hdeeper
    refine ⟨⟨name, hl⟩, n, ?_⟩
    cases n with
    | zero =>
      have hheader : header = e.cursor + 1 := (congrArg Position.cursor hpos).symm.trans hstop
      exact ⟨fun j hj => absurd hj (Nat.not_lt_zero j), hr, .inl ⟨name, hl, hheader ▸ hd⟩⟩
    | succ n =>
      have hcall : Position.Path p (n + 1) fun i => (e.steps (i + 1)).state.position := hpath.tail
      have hbefore' : ∀ i ≤ n, (e.steps (i + 1)).state.position.cursor ≠ e.cursor + 1 := by
        intro i hi
        exact hbefore i (Nat.lt_succ_of_le hi)
      rcases hcall.to_returnLine hpos hl hd hbefore' hstop with hreturned | hlands
      · have hlen := congrArg (·.stack.length) hreturned
        exact absurd hdeeper (Nat.not_lt.2 (Nat.le_of_eq hlen))
      · refine ⟨?_, hlands⟩
        intro j hj
        exact (call_under_way hpath hpos hbefore j hj).length_le
  · rintro ⟨-, k, hdeep, hlands⟩
    rcases Nat.lt_or_ge n k with hlt | hge
    · exact hdeep n hlt
    · obtain ⟨stack, hmove, hlen⟩ := hlands.move
      have hnext := (hpath k (Nat.lt_succ_of_le hge)).deterministic hmove
      obtain rfl : k = n := by
        by_contra hne
        exact hbefore k (by omega) (congrArg Position.cursor hnext)
      have hstack : (e.steps (k + 1)).state.stack = stack := congrArg Position.stack hnext
      cases k with
      | zero => exact hin
      | succ k =>
        have := hdeep k (Nat.lt_succ_self k)
        rw [hstack]
        exact Nat.lt_of_lt_of_le this hlen

/-- A step that enters no function does not strand a call. -/
theorem not_strands_of_step (hp : e.program? = some p) (herr : e.step.error? = none)
    (hin : e.step.state.stack.length ≤ e.stack.length) : ¬e.Strands p := by
  rintro ⟨⟨name, hl⟩, k, hdeep, hlands⟩
  cases k with
  | succ k =>
    have hone := hdeep 0 (Nat.succ_pos k)
    rw [Nat.zero_add, steps_one] at hone
    exact absurd hone (Nat.not_lt.2 hin)
  | zero =>
    obtain ⟨hr, ⟨callee, hl', hd⟩ | ⟨defined, hl', -⟩⟩ := hlands
    · have hmove := move_of_step hp (atEnd_of_cursor_lt hp hr.lt_size) herr
      have hstack := congrArg Position.stack (hmove.deterministic (.enter hr hl' hd))
      rw [position_stack] at hstack
      rw [hstack] at hin
      exact absurd hin (Nat.not_succ_le_self _)
    · rw [position_cursor, steps_zero, Outcome.quiet_state, hl] at hl'
      cases hl'

/-- A call at top level that no definition follows is never abandoned. -/
theorem not_strands (htop : ¬p.isBody e.cursor)
    (hnext : ∀ name, p.read (e.cursor + 1) ≠ .ok (.definition name)) : ¬e.Strands p := by
  rintro ⟨⟨name, hl⟩, k, -, -, ⟨callee, -, hd⟩ | ⟨defined, hl', hend⟩⟩
  · exact hnext callee (Program.read_of_functionLine? hd)
  · have hle := p.le_blockEnd ((e.steps k).state.position.cursor + 1)
    have hne : (e.steps k).state.position.cursor ≠ e.cursor := by
      intro heq
      rw [heq, hl] at hl'
      cases hl'
    have hin : e.cursor < p.blockEnd ((e.steps k).state.position.cursor + 1) := by omega
    exact htop (Program.isBody_of_lt_blockEnd (by omega) hin)

end Engine

namespace Session

variable {s : Session} {line : String}

/-- **When a step over ends inside the function it entered.** A step over that does not make the
session start over leaves the call stack deeper than it was exactly if the call strands. -/
theorem stepOver_deeper_iff (ha : s.awaitingSource = false)
    (hparse : Command.parse line = .ok (some .stepOver)) (hstays : s.resets line = false) :
    s.engine.stack.length < (s.execute line).state.engine.stack.length ↔
      ∃ p, s.engine.program? = some p ∧ s.engine.Strands p := by
  cases hp : s.engine.program? with
  | none =>
    have hnothing : (s.execute line).state.engine.stack.length = s.engine.stack.length := by
      rw [resets_of_parse ha hparse, Option.isSome_eq_false_iff, Option.isNone_iff_eq_none]
        at hstays
      rw [execute_of_parse ha hparse, settle_of_no_ending hstays, outcome, perform,
        stepOver_of_no_program hp]
      rfl
    refine iff_of_false (Nat.not_lt.2 (Nat.le_of_eq hnothing)) ?_
    rintro ⟨p, hp', -⟩
    cases hp'
  | some p =>
    simp only [Option.some.injEq, exists_eq_left']
    by_cases hin : s.engine.step.error? = none ∧
        s.engine.stack.length < s.engine.step.state.stack.length
    · have hreflects := stepOver_reflects_go hp hin.1 hin.2
      obtain ⟨n, hn, hreason, hbefore⟩ :=
        Engine.go_eq_steps (fun e => e.cursor == s.engine.cursor + 1) hp
      rw [hn] at hreflects
      have hending := ending?_eq_none_of_reflects ha hparse hreflects hstays
      rw [(execute_of_reflects ha hparse hreflects hending).2]
      refine Engine.deeper_iff_strands hp ?_ ?_ (Engine.ending?_eq_none_iff.1 hending).1 ?_ ?_
      · rw [Engine.steps_one]
        exact hin.2
      · intro j hj
        cases j with
        | zero => exact Engine.atEnd_of_enters hp hin.2
        | succ j =>
          exact (Engine.ending?_eq_none_iff.1 (hbefore j (Nat.lt_of_succ_lt_succ hj)).1).2.2
      · intro j hj
        simpa using (hbefore j hj).2
      · simpa [hending] using hreason
    · have hle : s.engine.step.error? = none →
          s.engine.step.state.stack.length ≤ s.engine.stack.length := by
        intro herr
        exact Nat.le_of_not_lt fun hlt => hin ⟨herr, hlt⟩
      have hreflects := stepOver_reflects_step hp hle
      have hending := ending?_eq_none_of_reflects ha hparse hreflects hstays
      have herr := (Engine.ending?_eq_none_iff.1 hending).1
      rw [(execute_of_reflects ha hparse hreflects hending).2]
      exact iff_of_false (Nat.not_lt.2 (hle herr)) (Engine.not_strands_of_step hp herr (hle herr))

/-- A call, and on the line after it the function. -/
def callBeforeHeader : Session :=
  ((initial 1000).load "call f\ndef f\n    set a 1\nprint a").state

/-- The step over is over as soon as it has entered the function. -/
theorem stepOver_callBeforeHeader :
    callBeforeHeader.resets "step over" = false ∧
      (callBeforeHeader.execute "step over").error? = none ∧
        (callBeforeHeader.execute "step over").state.engine.stack = [⟨"f", 0⟩] := by
  have hp : callBeforeHeader.engine.program? =
      some (.ofSource "call f\ndef f\n    set a 1\nprint a") := rfl
  have hending : Engine.ending? (callBeforeHeader.engine.steps 1) = none := by decide
  have hgo : (callBeforeHeader.engine.go fun e =>
      e.cursor == callBeforeHeader.engine.cursor + 1) = callBeforeHeader.engine.steps 1 :=
    Engine.go_eq_steps_of_first hp (.inr (by decide)) fun j hj => absurd hj (Nat.not_lt_zero j)
  have hreflects : Reflects callBeforeHeader (callBeforeHeader.perform .stepOver)
      (callBeforeHeader.engine.steps 1) :=
    hgo ▸ stepOver_reflects_go hp (by decide) (by decide)
  have hparse : Command.parse "step over" = .ok (some .stepOver) := rfl
  have hexecute := execute_of_reflects rfl hparse hreflects hending
  rw [resets_of_reflects rfl hparse hreflects, hending, hexecute.2]
  exact ⟨rfl, hexecute.1, rfl⟩

theorem callBeforeHeader_strands :
    callBeforeHeader.awaitingSource = false ∧ Command.parse "step over" = .ok (some .stepOver) ∧
      callBeforeHeader.resets "step over" = false ∧
        ∃ p, callBeforeHeader.engine.program? = some p ∧ callBeforeHeader.engine.Strands p := by
  obtain ⟨hstays, -, hstack⟩ := stepOver_callBeforeHeader
  refine ⟨rfl, rfl, hstays, (stepOver_deeper_iff rfl rfl hstays).1 ?_⟩
  rw [hstack]
  exact Nat.zero_lt_one

/-- The step over stops on the header of the function it just entered. -/
theorem stepOver_stops_in_function :
    Reachable 1000 callBeforeHeader ∧ callBeforeHeader.awaitingSource = false ∧
      (callBeforeHeader.execute "step over").error? = none ∧
        callBeforeHeader.resets "step over" = false ∧
          ¬(callBeforeHeader.execute "step over").state.engine.stack.length ≤
            callBeforeHeader.engine.stack.length := by
  obtain ⟨hstays, herr, hstack⟩ := stepOver_callBeforeHeader
  refine ⟨.load _ .initial, rfl, herr, hstays, ?_⟩
  rw [hstack]
  exact Nat.not_succ_le_zero 0

end Session

end LineDebugger
