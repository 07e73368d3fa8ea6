import LineDebugger.Proofs.Engine.Steps

/-!
# Regions of control

The call stack records only names and call lines, and the cursor is a bare number. That a program
is nevertheless carried out function by function is an invariant: the cursor stays between the
header of the active function and the end of its block, every call under way was made from inside
the block of the function before it, and at top level the cursor is never inside a block.

A return goes to the line after the call, so the invariant has to know where the calls were made.
`Program.Inside` says where control may be when it makes a call, and `Program.Covers` where it may
be at all; the difference is the header and the end of the block. A call line that lies inside is
followed by a line that is covered, and this is why returns keep the invariant. At top level it
takes that the call line is itself no header, which is why the chain of calls remembers what its
lines say.

## Main definitions

* `Program.Inside`, `Program.Covers` — where the active function may call, and where it may be
* `Program.Chain` — the calls under way were made where they could be made
* `Position.Placed`, `Engine.Placed` — the invariant
* `Engine.BlockDone`, `Engine.Processes` — the two kinds of places, by what the next step does

## Main results

* `Position.Move.placed` — every move keeps the invariant
* `Engine.Placed.step`, `Engine.Placed.steps` — so does every step, also one that fails
* `Engine.Placed.processes` — only at the end of a block the next step is not about a line
-/

namespace LineDebugger

namespace Program

variable {p : Program} {stack outer : List Frame} {frame : Frame} {index cursor : Nat}

/-- With these calls under way, control can be at this line to call from it: properly inside the
block of the active function, or at top level and so not inside the block of any definition. -/
def Inside (p : Program) : List Frame → Nat → Prop
  | [], line => ∀ header name, p.read header = .ok (.definition name) →
      header < line → p.blockEnd (header + 1) ≤ line
  | frame :: _, line => ∃ header, p.functionLine? frame.function = some header ∧
      header < line ∧ line < p.blockEnd (header + 1)

/-- With these calls under way, control can be at this index: from the header of the active
function to the end of its block, or at top level and not inside the block of any definition. -/
def Covers (p : Program) : List Frame → Nat → Prop
  | [], cursor => p.Inside [] cursor
  | frame :: _, cursor => ∃ header, p.functionLine? frame.function = some header ∧
      header ≤ cursor ∧ cursor ≤ p.blockEnd (header + 1)

/-- Every call under way was made from a line that says so, and where control could be. -/
def Chain (p : Program) : List Frame → Prop
  | [] => True
  | frame :: outer => p.read frame.callLine = .ok (.call frame.function) ∧
      p.Inside outer frame.callLine ∧ p.Chain outer

/-- A line that is read is one to call from. -/
theorem Covers.inside (h : p.Covers stack index) (hr : p.Reads stack index) :
    p.Inside stack index := by
  cases stack with
  | nil => exact h
  | cons frame outer =>
    obtain ⟨header, hh, hle, hend⟩ := h
    obtain ⟨hno, hbody⟩ := hr
    have hne : index ≠ header := fun heq => hno (heq ▸ hh)
    have hne' : index ≠ p.blockEnd (header + 1) := fun heq => not_isBody_blockEnd _ (heq ▸ hbody)
    exact ⟨header, hh, by omega, by omega⟩

/-- After a line that is no definition comes a place where control can be. -/
theorem Inside.covers_succ {line : Line} (h : p.Inside stack index)
    (hl : p.read index = .ok line) (hline : ∀ name, line ≠ .definition name) :
    p.Covers stack (index + 1) := by
  cases stack with
  | nil =>
    intro header name hd hlt
    have hne : header ≠ index := by
      rintro rfl
      rw [hl] at hd
      exact hline name (Except.ok.inj hd)
    exact Nat.le_succ_of_le (h header name hd (by omega))
  | cons frame outer =>
    obtain ⟨header, hh, hlt, hend⟩ := h
    exact ⟨header, hh, by omega, hend⟩

/-- After a definition with its block comes a place where control can be. -/
theorem Inside.covers_blockEnd (h : p.Inside stack index) :
    p.Covers stack (p.blockEnd (index + 1)) := by
  have hle := p.le_blockEnd (index + 1)
  cases stack with
  | nil =>
    intro header name hd hlt
    by_contra hno
    have hbody := isBody_of_lt_blockEnd (Nat.succ_le_of_lt hlt) (Nat.lt_of_not_le hno)
    exact not_isBody_blockEnd _ hbody
  | cons frame outer =>
    obtain ⟨header, hh, hlt, hend⟩ := h
    exact ⟨header, hh, by omega, Nat.le_of_eq (blockEnd_eq_of_le (by omega) hend)⟩

end Program

open Program

/-- The cursor is where the active function may be, and so it was with every call. -/
structure Position.Placed (p : Program) (a : Position) : Prop where
  chain : p.Chain a.stack
  covers : p.Covers a.stack a.cursor
  cursor_le : a.cursor ≤ p.size

variable {p : Program}

/-- The start of a program is in its place. -/
theorem Position.Placed.start : Position.Placed p ⟨[], 0⟩ where
  chain := trivial
  covers _ _ _ hlt := absurd hlt (Nat.not_lt_zero _)
  cursor_le := Nat.zero_le _

/-- Every move keeps the cursor in its place. -/
theorem Position.Move.placed {a b : Position} (h : Move p a b) (ha : Placed p a) :
    Placed p b := by
  obtain ⟨hchain, hcovers, -⟩ := ha
  cases h with
  | @header frame outer index hh =>
    have hle := p.le_blockEnd (index + 1)
    exact ⟨hchain, ⟨index, hh, Nat.le_succ _, hle⟩, lt_size_of_functionLine? hh⟩
  | @skip stack index name hr hl =>
    exact ⟨hchain, (hcovers.inside hr).covers_blockEnd, blockEnd_le_size hr.lt_size⟩
  | @enter stack index header name hr hl hd =>
    have hle := p.le_blockEnd (header + 1)
    exact ⟨⟨hl, hcovers.inside hr, hchain⟩, ⟨header, hd, Nat.le_refl _, Nat.le_of_succ_le hle⟩,
      Nat.le_of_lt (lt_size_of_functionLine? hd)⟩
  | statement hr hl => exact ⟨hchain, (hcovers.inside hr).covers_succ hl (by simp), hr.lt_size⟩
  | leave hh hb =>
    obtain ⟨hl, hinside, houter⟩ := hchain
    exact ⟨houter, hinside.covers_succ hl (by simp), lt_size_of_read hl⟩

namespace Engine

variable {e : Engine}

/-- The engine is in its place in its program, or at the start if it has none. -/
def Placed (e : Engine) : Prop :=
  match e.program? with
  | none => e.stack = [] ∧ e.cursor = 0
  | some p => Position.Placed p e.position

theorem placed_iff (hp : e.program? = some p) : e.Placed ↔ Position.Placed p e.position := by
  rw [Placed, hp]

/-- Without a program, a step does nothing. -/
theorem step_of_no_program (hp : e.program? = none) : e.step = .quiet e := by
  simp [step, hp]

theorem placed_initial (depthLimit : Nat) : (Engine.initial depthLimit).Placed := ⟨rfl, rfl⟩

theorem placed_restarted (e : Engine) : e.restarted.Placed := by
  cases hp : e.program? with
  | none => rw [Placed, restarted, hp]; exact ⟨rfl, rfl⟩
  | some p =>
    have hrestarted : e.restarted.program? = some p := hp
    exact (placed_iff hrestarted).2 .start

/-- A step keeps the engine in its place, also one that fails. -/
theorem Placed.step (h : e.Placed) : e.step.state.Placed := by
  cases hp : e.program? with
  | none => rw [step_of_no_program hp]; exact h
  | some p =>
    cases hend : e.atEnd with
    | true => rw [step_of_atEnd hp hend]; exact h
    | false =>
      rcases move_or_fail_of_step hp hend with hm | ⟨error, hf⟩
      · exact (placed_iff (by rw [step_program?, hp])).2 (hm.placed ((placed_iff hp).1 h))
      · rw [hf]
        exact h

theorem Placed.steps (h : e.Placed) (n : Nat) : (e.steps n).state.Placed :=
  steps_invariant (fun _ => Placed.step) h n

/-! ### The next step -/

/-- The active function has run to the end of its block. -/
def BlockDone (e : Engine) (p : Program) : Prop :=
  ∃ frame outer header, e.stack = frame :: outer ∧
    p.functionLine? frame.function = some header ∧ e.cursor = p.blockEnd (header + 1)

/-- The next step is about the line under the cursor: it passes the header of the active function,
or it does what the line asks for. -/
def Processes (e : Engine) (p : Program) : Prop :=
  e.cursor < p.size ∧
    (e.step = e.stepLine p ∨
      ∃ frame outer, e.stack = frame :: outer ∧ p.functionLine? frame.function = some e.cursor ∧
        e.step = .quiet { e with cursor := e.cursor + 1 })

/-- At the end of the active function's block the next step returns. -/
theorem BlockDone.step (hp : e.program? = some p) (h : e.BlockDone p) :
    ∃ frame outer, e.stack = frame :: outer ∧
      e.step = .done { e with stack := outer, cursor := frame.returnLine } [.returned frame] := by
  obtain ⟨frame, outer, header, hs, hh, hcursor⟩ := h
  have hle := p.le_blockEnd (header + 1)
  refine ⟨frame, outer, hs, step_of_leaves hp hs ?_ ?_⟩
  · rw [hh, hcursor]
    intro heq
    have := Option.some.inj heq
    omega
  · rw [hcursor]
    exact not_isBody_blockEnd _

/-- Anywhere else the next step is about the line under the cursor. -/
theorem Placed.processes (hp : e.program? = some p) (h : e.Placed) (hend : e.atEnd = false)
    (hdone : ¬e.BlockDone p) : e.Processes p := by
  rcases step_cases hp hend with ⟨frame, outer, hs, hh⟩ | hr | ⟨frame, outer, hs, hh, hb⟩
  · exact ⟨lt_size_of_functionLine? hh, .inr ⟨frame, outer, hs, hh, step_of_header hp hs hh⟩⟩
  · exact ⟨hr.lt_size, .inl (step_of_reads hp hr)⟩
  · obtain ⟨-, hcovers, -⟩ := (placed_iff hp).1 h
    rw [position_stack, hs] at hcovers
    obtain ⟨header, hd, hle, hend⟩ := hcovers
    have hne : e.cursor ≠ header := fun heq => hh (heq ▸ hd)
    refine absurd ⟨frame, outer, header, hs, hd, ?_⟩ hdone
    by_contra hlt
    have hin : header + 1 ≤ e.cursor := Nat.lt_of_le_of_ne hle (Ne.symm hne)
    exact hb (isBody_of_lt_blockEnd hin (Nat.lt_of_le_of_ne hend hlt))

end Engine

end LineDebugger
