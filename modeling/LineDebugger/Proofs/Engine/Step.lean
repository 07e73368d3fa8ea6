import LineDebugger.Engine.Basic
import LineDebugger.Proofs.Program.Layout

/-!
# What one step does

A step of an engine is decided in two stages. The call stack and the cursor alone say whether the
step passes a header, returns from a call, or reads the line under the cursor; only in the last
case does it matter what that line says. `Program.Reads` is the condition for the last case, and
the three equations of `Engine.step` say what follows in each.

Where an engine stands is its *position*: the calls under way and the cursor. `Position.Move`
lists the ways in which a step can change it. Everything about control, as opposed to memory and
output, is derived from that list, and nothing after this module opens the definition of a step.

## Main definitions

* `Program.Reads` — the next step reads the line at this index
* `Position` — the calls under way and the cursor
* `Position.Move` — one step, as far as positions are concerned
* `Engine.Enters` — the next step enters a function

## Main results

* `Engine.step_of_header`, `Engine.step_of_reads`, `Engine.step_of_leaves` — the three equations
* `Engine.step_kinds` — what a step can be: a move, the execution of a statement, or a failure
* `Engine.move_of_step` — a step that succeeds is a move
* `Engine.move_or_fail_of_step` — a step that fails is a move as well, or leads nowhere
* `Engine.reads_of_step_error` — a step that fails was about a line, and leads past it or nowhere
-/

namespace LineDebugger

/-! ### The three kinds of steps -/

/-- With these calls under way, a step at `index` reads the line there: in no call the line has to
exist, and in a call it has to be a body line that is not the header of the function. -/
def Program.Reads (p : Program) : List Frame → Nat → Prop
  | [], index => index < p.size
  | frame :: _, index => p.functionLine? frame.function ≠ some index ∧ p.isBody index

theorem Program.Reads.lt_size {p : Program} {stack : List Frame} {index : Nat}
    (h : p.Reads stack index) : index < p.size := by
  cases stack with
  | nil => exact h
  | cons frame outer => exact Program.lt_size_of_isBody h.2

namespace Engine

variable {e : Engine} {p : Program}

theorem atEnd_iff (hp : e.program? = some p) : e.atEnd ↔ p.size ≤ e.cursor ∧ e.stack = [] := by
  simp [atEnd, hp]

theorem idle_of_program? (hp : e.program? = some p) : e.idle = e.atEnd := by
  simp [idle, hp]

theorem step_of_atEnd (hp : e.program? = some p) (h : e.atEnd) : e.step = .quiet e := by
  simp [step, hp, h]

theorem step_eq_stepIn (hp : e.program? = some p) (h : e.atEnd = false) :
    e.step = e.stepIn p := by
  simp [step, hp, h]

theorem atEnd_of_stack_ne_nil (hp : e.program? = some p) (h : e.stack ≠ []) :
    e.atEnd = false := by
  rw [Bool.eq_false_iff]
  exact fun hend => h ((atEnd_iff hp).1 hend).2

theorem atEnd_of_cursor_lt (hp : e.program? = some p) (h : e.cursor < p.size) :
    e.atEnd = false := by
  rw [Bool.eq_false_iff]
  exact fun hend => absurd ((atEnd_iff hp).1 hend).1 (Nat.not_le.2 h)

/-- At the end of the program no step enters a function. -/
theorem atEnd_of_enters (hp : e.program? = some p)
    (h : e.stack.length < e.step.state.stack.length) : e.atEnd = false := by
  rw [Bool.eq_false_iff]
  intro hend
  rw [step_of_atEnd hp hend] at h
  exact Nat.lt_irrefl _ h

/-- On the header of the function called last, a step goes to the next line. -/
theorem step_of_header {frame : Frame} {outer : List Frame} (hp : e.program? = some p)
    (hs : e.stack = frame :: outer) (hh : p.functionLine? frame.function = some e.cursor) :
    e.step = .quiet { e with cursor := e.cursor + 1 } := by
  rw [step_eq_stepIn hp (atEnd_of_stack_ne_nil hp (by simp [hs])), stepIn, hs]
  exact if_pos hh

/-- In a call, and on neither the header nor a body line, a step returns. -/
theorem step_of_leaves {frame : Frame} {outer : List Frame} (hp : e.program? = some p)
    (hs : e.stack = frame :: outer) (hh : p.functionLine? frame.function ≠ some e.cursor)
    (hb : ¬p.isBody e.cursor) :
    e.step = .done { e with stack := outer, cursor := frame.returnLine } [.returned frame] := by
  rw [step_eq_stepIn hp (atEnd_of_stack_ne_nil hp (by simp [hs])), stepIn, hs]
  exact (if_neg hh).trans (if_neg hb)

/-- Otherwise a step does what the line under the cursor asks for. -/
theorem step_of_reads (hp : e.program? = some p) (hr : p.Reads e.stack e.cursor) :
    e.step = e.stepLine p := by
  rw [step_eq_stepIn hp (atEnd_of_cursor_lt hp hr.lt_size), stepIn]
  split
  · rfl
  · next frame outer hs =>
    rw [hs] at hr
    exact (if_neg hr.1).trans (if_pos hr.2)

/-- An engine with something left to do is on a header, reads its line, or returns. -/
theorem step_cases (hp : e.program? = some p) (hend : e.atEnd = false) :
    (∃ frame outer, e.stack = frame :: outer ∧ p.functionLine? frame.function = some e.cursor) ∨
      p.Reads e.stack e.cursor ∨
        ∃ frame outer, e.stack = frame :: outer ∧
          p.functionLine? frame.function ≠ some e.cursor ∧ ¬p.isBody e.cursor := by
  cases hs : e.stack with
  | nil =>
    refine .inr (.inl (Nat.lt_of_not_le fun hle => ?_))
    simp [(atEnd_iff hp).2 ⟨hle, hs⟩] at hend
  | cons frame outer =>
    by_cases hh : p.functionLine? frame.function = some e.cursor
    · exact .inl ⟨frame, outer, rfl, hh⟩
    · by_cases hb : p.isBody e.cursor
      · exact .inr (.inl ⟨hh, hb⟩)
      · exact .inr (.inr ⟨frame, outer, rfl, hh, hb⟩)

/-! ### Reading a line -/

theorem stepLine_of_error {error : ProgramError} (h : p.read e.cursor = .error error) :
    e.stepLine p = .fail e error := by
  rw [Program.read] at h
  simp only [stepLine, h]

theorem stepLine_of_definition {name : String} (h : p.read e.cursor = .ok (.definition name)) :
    e.stepLine p = .quiet { e with cursor := p.blockEnd (e.cursor + 1) } := by
  rw [Program.read] at h
  simp only [stepLine, h]

theorem stepLine_of_call {name : String} (h : p.read e.cursor = .ok (.call name)) :
    e.stepLine p = e.enter p name := by
  rw [Program.read] at h
  simp only [stepLine, h]

theorem stepLine_of_statement {s : Statement} (h : p.read e.cursor = .ok (.statement s)) :
    e.stepLine p = e.runStatement s := by
  rw [Program.read] at h
  simp only [stepLine, h]

theorem enter_of_unknown {name : String} (h : p.functionLine? name = none) :
    e.enter p name = .fail e (.unknownFunction name e.cursor) := by
  simp only [enter, h]

theorem enter_of_limit_le {name : String} {header : Nat} (h : p.functionLine? name = some header)
    (hd : e.depthLimit ≤ e.stack.length) :
    e.enter p name = .fail e (.depthExceeded e.depthLimit e.cursor) := by
  simp only [enter, h, if_pos hd]

theorem enter_of_lt_limit {name : String} {header : Nat} (h : p.functionLine? name = some header)
    (hd : e.stack.length < e.depthLimit) :
    e.enter p name =
      .done { e with stack := ⟨name, e.cursor⟩ :: e.stack, cursor := header }
        [.called ⟨name, e.cursor⟩ header] := by
  simp only [enter, h, if_neg (Nat.not_le.2 hd)]

end Engine

/-! ### Positions -/

/-- Where an engine stands: the calls under way, the innermost first, and the line to look at
next. -/
@[ext] structure Position where
  stack : List Frame
  cursor : Nat

/-- One step of an engine, as far as its position is concerned. -/
inductive Position.Move (p : Program) : Position → Position → Prop
  /-- Past the header of the function that was called last. -/
  | header {frame : Frame} {outer : List Frame} {index : Nat}
      (hh : p.functionLine? frame.function = some index) :
      Move p ⟨frame :: outer, index⟩ ⟨frame :: outer, index + 1⟩
  /-- Over a definition with its block. -/
  | skip {stack : List Frame} {index : Nat} {name : String} (hr : p.Reads stack index)
      (hl : p.read index = .ok (.definition name)) :
      Move p ⟨stack, index⟩ ⟨stack, p.blockEnd (index + 1)⟩
  /-- Into a function. -/
  | enter {stack : List Frame} {index header : Nat} {name : String} (hr : p.Reads stack index)
      (hl : p.read index = .ok (.call name)) (hd : p.functionLine? name = some header) :
      Move p ⟨stack, index⟩ ⟨⟨name, index⟩ :: stack, header⟩
  /-- Past a statement. -/
  | statement {stack : List Frame} {index : Nat} {s : Statement} (hr : p.Reads stack index)
      (hl : p.read index = .ok (.statement s)) :
      Move p ⟨stack, index⟩ ⟨stack, index + 1⟩
  /-- Out of a function, to the line after its call. -/
  | leave {frame : Frame} {outer : List Frame} {index : Nat}
      (hh : p.functionLine? frame.function ≠ some index) (hb : ¬p.isBody index) :
      Move p ⟨frame :: outer, index⟩ ⟨outer, frame.returnLine⟩

/-- A move that makes the call stack longer is a call of the function that the line names. -/
theorem Position.Move.entered {p : Program} {a b : Position} (h : Move p a b)
    (hlt : a.stack.length < b.stack.length) :
    ∃ name header, p.Reads a.stack a.cursor ∧ p.read a.cursor = .ok (.call name) ∧
      p.functionLine? name = some header ∧ b = ⟨⟨name, a.cursor⟩ :: a.stack, header⟩ := by
  cases h with
  | header hh => exact absurd hlt (Nat.lt_irrefl _)
  | skip hr hl => exact absurd hlt (Nat.lt_irrefl _)
  | enter hr hl hd => exact ⟨_, _, hr, hl, hd, rfl⟩
  | statement hr hl => exact absurd hlt (Nat.lt_irrefl _)
  | leave hh hb => exact absurd hlt (Nat.not_lt.2 (Nat.le_succ _))

namespace Engine

variable {e : Engine} {p : Program}

/-- Where the engine stands. -/
def position (e : Engine) : Position := ⟨e.stack, e.cursor⟩

@[simp] theorem position_stack (e : Engine) : e.position.stack = e.stack := rfl

@[simp] theorem position_cursor (e : Engine) : e.position.cursor = e.cursor := rfl

/-- What a step of an engine with something left to do can be. It moves, puts nothing out and leaves
everything but the position as it was. Or it reads the line under the cursor, and executes it if it
is a statement, or fails where it stands. -/
theorem step_kinds (hp : e.program? = some p) (hend : e.atEnd = false) :
    (∃ stack cursor events, Position.Move p e.position ⟨stack, cursor⟩ ∧ outputs events = [] ∧
        e.step = .done { e with stack := stack, cursor := cursor } events) ∨
      p.Reads e.stack e.cursor ∧
        ((∃ s, p.read e.cursor = .ok (.statement s) ∧ e.step = e.runStatement s) ∨
          ∃ error, e.step = .fail e error) := by
  rcases step_cases hp hend with ⟨frame, outer, hs, hh⟩ | hr | ⟨frame, outer, hs, hh, hb⟩
  · refine .inl ⟨e.stack, e.cursor + 1, [], ?_, rfl, step_of_header hp hs hh⟩
    rw [position, hs]
    exact .header hh
  · rw [step_of_reads hp hr]
    cases hl : p.read e.cursor with
    | error error => exact .inr ⟨hr, .inr ⟨error, stepLine_of_error hl⟩⟩
    | ok line =>
      cases line with
      | definition name =>
        exact .inl ⟨e.stack, _, [], .skip hr hl, rfl, stepLine_of_definition hl⟩
      | statement s => exact .inr ⟨hr, .inl ⟨s, rfl, stepLine_of_statement hl⟩⟩
      | call name =>
        rw [stepLine_of_call hl]
        cases hd : p.functionLine? name with
        | none => exact .inr ⟨hr, .inr ⟨_, enter_of_unknown hd⟩⟩
        | some header =>
          rcases Nat.lt_or_ge e.stack.length e.depthLimit with hlt | hge
          · exact .inl ⟨_, header, _, .enter hr hl hd, rfl, enter_of_lt_limit hd hlt⟩
          · exact .inr ⟨hr, .inr ⟨_, enter_of_limit_le hd hge⟩⟩
  · refine .inl ⟨outer, frame.returnLine, _, ?_, rfl, step_of_leaves hp hs hh hb⟩
    rw [position, hs]
    exact .leave hh hb

/-- A step of an engine that has something left to do is a move, unless it fails where it stands. -/
theorem move_or_fail_of_step (hp : e.program? = some p) (hend : e.atEnd = false) :
    Position.Move p e.position e.step.state.position ∨ ∃ error, e.step = .fail e error := by
  rcases step_kinds hp hend with ⟨stack, cursor, events, hmove, -, hs⟩ | ⟨hr, ⟨s, hl, hs⟩ | hfail⟩
  · rw [hs]
    exact .inl hmove
  · rw [hs]
    exact .inl (.statement hr hl)
  · exact .inr hfail

/-- A step that succeeds is a move. -/
theorem move_of_step (hp : e.program? = some p) (hend : e.atEnd = false)
    (h : e.step.error? = none) : Position.Move p e.position e.step.state.position := by
  rcases move_or_fail_of_step hp hend with hm | ⟨error, hf⟩
  · exact hm
  · rw [hf] at h
    cases h

/-- Does the next step enter a function? -/
def Enters (e : Engine) : Prop :=
  e.step.error? = none ∧ e.stack.length < e.step.state.stack.length

instance (e : Engine) : Decidable e.Enters := inferInstanceAs (Decidable (_ ∧ _))

/-- A step that enters a function carries out the call under the cursor. -/
theorem Enters.call (hp : e.program? = some p) (h : e.Enters) :
    ∃ name header, p.Reads e.stack e.cursor ∧ p.read e.cursor = .ok (.call name) ∧
      p.functionLine? name = some header ∧
        e.step.state.position = ⟨⟨name, e.cursor⟩ :: e.stack, header⟩ :=
  (move_of_step hp (atEnd_of_enters hp h.2) h.1).entered h.2

/-- A step that fails was about a line. It leaves the engine as it is, or moves the cursor past a
statement. -/
theorem reads_of_step_error {error : ProgramError} (hp : e.program? = some p)
    (h : e.step.error? = some error) :
    p.Reads e.stack e.cursor ∧ (e.step.state = e ∨
      ∃ i, e.step.state = { e with cursor := e.cursor + 1, interpreter := i }) := by
  cases hend : e.atEnd with
  | true =>
    rw [step_of_atEnd hp hend] at h
    cases h
  | false =>
    rcases step_kinds hp hend with ⟨stack, cursor, events, -, -, hs⟩ | ⟨hr, ⟨s, -, hs⟩ | ⟨_, hs⟩⟩
    · rw [hs] at h
      cases h
    · rw [hs]
      exact ⟨hr, .inr ⟨_, rfl⟩⟩
    · rw [hs]
      exact ⟨hr, .inl rfl⟩

/-- A step never changes how many calls may be under way. -/
@[simp] theorem step_depthLimit (e : Engine) : e.step.state.depthLimit = e.depthLimit := by
  cases hp : e.program? with
  | none => simp [step, hp]
  | some p =>
    cases hend : e.atEnd with
    | true => rw [step_of_atEnd hp hend]; rfl
    | false =>
      rcases step_kinds hp hend with ⟨_, _, _, -, -, hs⟩ | ⟨-, ⟨s, -, hs⟩ | ⟨_, hs⟩⟩ <;>
        rw [hs] <;> rfl

end Engine

end LineDebugger
