import LineDebugger.Proofs.Engine.Region

/-!
# Reachable engines

An engine is moved by steps, whether they succeed or fail, and at any time a program can be loaded
or the engine be reset. `Engine.Reachable` is what it comes to in this way, and `Engine.Placed`
holds of all of it.

The invariant is made to be kept by moves: it follows the call stack down by recursion, and tells
where control may be apart from where it may call from. What it means for a single call is read off
here. Every call under way was made by a line that asks for it; a call made in the course of
another one was made from inside the block of that function; and the cursor is between the header
of the active function and the end of its block. With no call under way it is in no block at all.
So the engine asks only for the indentation of a line to tell whether the line is in the block of
the active function, and is right about it.

## Main definitions

* `Engine.Reachable` — the states that loads, resets and steps lead to
* `Engine.InRegion` — the stack is a chain of calls, and the cursor is where the last one may be

## Main results

* `Engine.Reachable.stays_in_region` — so it is with every reachable engine
-/

namespace LineDebugger

open Program

namespace Program

variable {p : Program} {stack above below : List Frame} {frame inner : Frame}

/-- The calls below one of the calls in a chain are a chain too. -/
theorem Chain.of_append (h : p.Chain (above ++ stack)) : p.Chain stack := by
  induction above with
  | nil => exact h
  | cons frame above ih => exact ih h.2.2

/-- Every call in a chain was made from a line that calls its function. -/
theorem Chain.read_callLine (h : p.Chain stack) (hf : frame ∈ stack) :
    p.read frame.callLine = .ok (.call frame.function) := by
  obtain ⟨above, below, rfl⟩ := List.append_of_mem hf
  exact h.of_append.1

/-- Every call in a chain was made from where control could be with the calls below it. -/
theorem Chain.inside_below (h : p.Chain (above ++ inner :: below)) :
    p.Inside below inner.callLine :=
  h.of_append.2.1

end Program

namespace Position

variable {p : Program} {a : Position} {frame : Frame}

/-- Every call under way is a call of a function that is defined: of the last one this is so
because the cursor is in its region, of the others because calls were made from their blocks. -/
theorem Placed.defined (h : Placed p a) (hf : frame ∈ a.stack) :
    ∃ header, p.functionLine? frame.function = some header := by
  obtain ⟨above, below, hs⟩ := List.append_of_mem hf
  rcases List.eq_nil_or_concat above with rfl | ⟨above, inner, rfl⟩
  · have hcovers := h.covers
    rw [hs] at hcovers
    obtain ⟨header, hd, -⟩ := hcovers
    exact ⟨header, hd⟩
  · have hchain := h.chain
    rw [hs, List.concat_eq_append, List.append_assoc] at hchain
    obtain ⟨header, hd, -⟩ := hchain.inside_below
    exact ⟨header, hd⟩

end Position

namespace Engine

variable {limit : Nat} {e : Engine} {p : Program}

/-- The states that an engine with this limit on calls can come to. -/
inductive Reachable (limit : Nat) : Engine → Prop
  | initial : Reachable limit (.initial limit)
  | load {e : Engine} (source : String) (h : Reachable limit e) :
      Reachable limit (e.load source).state
  | reset {e : Engine} (h : Reachable limit e) : Reachable limit e.reset.state
  /-- A step, also one that fails. -/
  | step {e : Engine} (h : Reachable limit e) : Reachable limit e.step.state

theorem Reachable.steps (h : Reachable limit e) (n : Nat) : Reachable limit (e.steps n).state :=
  steps_invariant (fun _ => Reachable.step) h n

/-- A reachable engine is in its place. -/
theorem Reachable.placed (h : Reachable limit e) : e.Placed := by
  induction h with
  | initial => exact placed_initial limit
  | load source h ih => exact placed_restarted _
  | reset h ih => exact placed_restarted _
  | step h ih => exact ih.step

/-- Every program was loaded from a text. -/
theorem Reachable.exists_source (h : Reachable limit e) (hp : e.program? = some p) :
    ∃ source, p = .ofSource source := by
  induction h with
  | initial => cases hp
  | load source h ih => exact ⟨source, (Option.some.inj hp).symm⟩
  | reset h ih => exact ih hp
  | step h ih => exact ih (by rwa [step_program?] at hp)

/-- The call stack is a chain of calls that the program makes, and the cursor is in the region of
the active function. -/
structure InRegion (e : Engine) (p : Program) : Prop where
  /-- Every call under way is of a function in the table, made by an existing line that calls it. -/
  called : ∀ frame ∈ e.stack, (∃ header, p.functionLine? frame.function = some header) ∧
    frame.callLine < p.size ∧ p.read frame.callLine = .ok (.call frame.function)
  /-- A call made in the course of another was made from inside the block of that function. -/
  nested : ∀ above inner outer below, e.stack = above ++ inner :: outer :: below →
    ∃ header, p.functionLine? outer.function = some header ∧
      header < inner.callLine ∧ inner.callLine < p.blockEnd (header + 1)
  /-- In a call, the cursor is between the header of the function and the end of its block. -/
  active : ∀ frame outer, e.stack = frame :: outer →
    ∃ header, p.functionLine? frame.function = some header ∧
      header ≤ e.cursor ∧ e.cursor ≤ p.blockEnd (header + 1)
  /-- In no call, the cursor is inside the block of no definition. -/
  topLevel : e.stack = [] → ∀ header name, p.read header = .ok (.definition name) →
    ¬(header < e.cursor ∧ e.cursor < p.blockEnd (header + 1))
  /-- A line inside a block is carried out only in a call of a function whose block it is in. -/
  bodies : ∀ header name, p.read header = .ok (.definition name) →
    header < e.cursor → e.cursor < p.blockEnd (header + 1) → p.Reads e.stack e.cursor →
      ∃ frame outer own, e.stack = frame :: outer ∧ p.functionLine? frame.function = some own ∧
        own < e.cursor ∧ e.cursor < p.blockEnd (own + 1)

theorem Placed.inRegion (hp : e.program? = some p) (h : e.Placed) : e.InRegion p := by
  have hplaced := (placed_iff hp).1 h
  have htop : e.stack = [] → ∀ header name, p.read header = .ok (.definition name) →
      ¬(header < e.cursor ∧ e.cursor < p.blockEnd (header + 1)) := by
    rintro hs header name hd ⟨hlt, hin⟩
    have hcovers := hplaced.covers
    rw [position_stack, hs] at hcovers
    exact absurd (hcovers header name hd hlt) (Nat.not_le.2 hin)
  refine ⟨?_, ?_, ?_, htop, ?_⟩
  · intro frame hf
    have hl := hplaced.chain.read_callLine hf
    exact ⟨hplaced.defined hf, lt_size_of_read hl, hl⟩
  · intro above inner outer below hs
    have hchain := hplaced.chain
    rw [position_stack, hs] at hchain
    exact hchain.inside_below
  · intro frame outer hs
    have hcovers := hplaced.covers
    rw [position_stack, hs] at hcovers
    exact hcovers
  · intro header name hd hlt hin hr
    have hinside := hplaced.covers.inside hr
    cases hs : e.stack with
    | nil => exact absurd ⟨hlt, hin⟩ (htop hs header name hd)
    | cons frame outer =>
      rw [position_stack, hs] at hinside
      obtain ⟨own, hown, hbody⟩ := hinside
      exact ⟨frame, outer, own, rfl, hown, hbody⟩

/-- **Control stays in the region of the active function.** In every state that loads, resets and
steps lead to, the call stack is a chain of calls that the program makes, and the cursor is in the
region of the active function. Without a program, no call is under way and the cursor is at the
start. -/
theorem Reachable.stays_in_region (h : Reachable limit e) :
    (e.program? = none → e.stack = [] ∧ e.cursor = 0) ∧
      ∀ p, e.program? = some p → e.InRegion p := by
  constructor
  · intro hp
    have hplaced := h.placed
    rw [Placed, hp] at hplaced
    exact hplaced
  · intro p hp
    exact h.placed.inRegion hp

/-- One function calls another, and both are defined before the first call. -/
def callInCall : Engine :=
  ((Engine.initial 4).load "def f\n    call g\n    print a\ndef g\n    set a 1\ncall f").state

/-- After two definitions, a call, a header, the second call and its header, the cursor is on the
only line of the inner function. -/
theorem callInCall_in_region :
    let e := (callInCall.steps 6).state
    Reachable 4 e ∧ e.cursor = 4 ∧ e.stack = [⟨"g", 1⟩, ⟨"f", 5⟩] ∧
      ∀ p, e.program? = some p → e.InRegion p := by
  have h : Reachable 4 (callInCall.steps 6).state := (Reachable.load _ .initial).steps 6
  exact ⟨h, by decide +kernel, by decide +kernel, h.stays_in_region.2⟩

end Engine

end LineDebugger
