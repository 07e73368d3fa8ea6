import LineDebugger.Proofs.Engine.DepthLimit
import LineDebugger.Proofs.Engine.Termination
import Mathlib.Data.List.Dedup
import Mathlib.Logic.Function.Basic

/-!
# Recursion never completes

No statement decides where to go next, so a call goes on in the same way each time it is made. A
function that has come to call itself, directly or by way of others, will therefore do so again, and
none of these calls can be the first to return. What ends such an execution is the limit on calls,
if it is not a failure before.

To prove it, every call under way needs its past: the path that leads from the header of its
function to the present position, with the call under way all along. `Position.Recorded` says that
there is such a path for every call on the stack, and every move keeps it so, since a move adds one
position to the paths of the calls that stay. Now suppose that a call of a function returns while
another call of the same function is under way below it. On the path of the lower call the upper one
runs in lockstep behind the lower one, so the lower one would have returned already.

It follows that an execution that comes to the end of the program never has two calls of the same
function under way. It has no more calls under way than the program has names for functions, and a
limit that allows for so many is never felt.

## Main definitions

* `Program.functionNames` — the names of functions that a program defines
* `Position.Activation`, `Position.Recorded` — the past of a call, and of all calls under way
* `Engine.NeverReturns` — no steps return from these calls

## Main results

* `Position.Recorded.keeps` — no move returns from a call inside a call of the same function
* `Engine.Reachable.neverReturns` — neither do steps, and they end in a failure
* `Engine.Reachable.stack_length_le_of_atEnd` — how many calls an execution that ends can have
* `Engine.recursion_never_completes` — both, and what it means for the limit on calls
-/

namespace LineDebugger

open Program

namespace Program

variable {p : Program}

/-- The names of the functions that a program defines, each of them once. -/
def functionNames (p : Program) : List String :=
  (p.lines.toList.filterMap FunctionTable.definedName?).dedup

theorem mem_functionNames {name : String} {header : Nat}
    (h : p.functionLine? name = some header) : name ∈ p.functionNames := by
  obtain ⟨line, hl, hdefined⟩ := read_eq_definition_iff.1 (read_of_functionLine? h)
  rw [functionNames, List.mem_dedup, List.mem_filterMap]
  exact ⟨line, Array.mem_toList_iff.2 (Array.mem_of_getElem? hl), hdefined⟩

end Program

namespace Position

variable {p : Program} {a b : Position} {frame inner outer : Frame}
  {above between base : List Frame} {n : Nat} {pos : Nat → Position}

/-! ### The past of a call -/

/-- The path starts where the call was made, at the header of its function, and the call is under
way all along. -/
structure Activation (p : Program) (frame : Frame) (base : List Frame) (n : Nat)
    (pos : Nat → Position) : Prop where
  path : Path p n pos
  entry : ∃ header, p.functionLine? frame.function = some header ∧
    pos 0 = ⟨frame :: base, header⟩
  under_way : ∀ i ≤ n, ∃ above cursor, pos i = ⟨above ++ frame :: base, cursor⟩

/-- A move that keeps the call goes on with its path. -/
theorem Activation.append (h : Activation p frame base n pos) (hmove : Move p (pos n) b)
    (hb : b.stack = above ++ frame :: base) :
    ∃ pos', Activation p frame base (n + 1) pos' ∧ pos' (n + 1) = b ∧ ∀ i ≤ n, pos' i = pos i := by
  have hbefore : ∀ i ≤ n, Function.update pos (n + 1) b i = pos i := by
    intro i hi
    exact Function.update_of_ne (Nat.ne_of_lt (Nat.lt_succ_of_le hi)) _ _
  have hlast : Function.update pos (n + 1) b (n + 1) = b := Function.update_self _ _ _
  refine ⟨Function.update pos (n + 1) b, ⟨?_, ?_, ?_⟩, hlast, hbefore⟩
  · intro i hi
    rcases Nat.lt_or_eq_of_le (Nat.le_of_lt_succ hi) with hlt | rfl
    · rw [hbefore i (Nat.le_of_lt hlt), hbefore (i + 1) hlt]
      exact h.path i hlt
    · rw [hbefore i (Nat.le_refl i), hlast]
      exact hmove
  · rw [hbefore 0 (Nat.zero_le n)]
    exact h.entry
  · intro i hi
    rcases Nat.lt_or_eq_of_le hi with hlt | rfl
    · rw [hbefore i (Nat.le_of_lt_succ hlt)]
      exact h.under_way i (Nat.le_of_lt_succ hlt)
    · exact ⟨above, b.cursor, hlast.trans (Position.ext hb rfl)⟩

/-- Every call under way has a past that leads to this position. -/
def Recorded (p : Program) (a : Position) : Prop :=
  ∀ above frame base, a.stack = above ++ frame :: base →
    ∃ n pos, Activation p frame base n pos ∧ pos n = a

/-- Where no call is under way there is nothing to record. -/
theorem Recorded.of_nil (h : a.stack = []) : Recorded p a := by
  intro above frame base hs
  rw [h] at hs
  simp at hs

/-- Every move keeps the record. -/
theorem Move.recorded (h : Move p a b) (ha : Recorded p a) : Recorded p b := by
  intro above frame base hb
  rcases h.calls hb with ⟨above', hs⟩ | ⟨hs, -, hd⟩
  · obtain ⟨n, pos, hpast, rfl⟩ := ha above' frame base hs
    obtain ⟨pos', hpast', hlast, -⟩ := hpast.append h hb
    exact ⟨n + 1, pos', hpast', hlast⟩
  · refine ⟨0, fun _ => b, ⟨?_, ⟨b.cursor, hd, Position.ext hs rfl⟩, ?_⟩, rfl⟩
    · intro i hi
      exact absurd hi (Nat.not_lt_zero i)
    · intro i hi
      exact ⟨[], b.cursor, Position.ext hs rfl⟩

/-- On the past of a call, a later call of the same function was made at the same line. -/
theorem Activation.entered (h : Activation p outer base n pos)
    (hf : inner.function = outer.function)
    (hs : (pos n).stack = above ++ inner :: (between ++ outer :: base)) :
    ∃ header, pos 0 = ⟨outer :: base, header⟩ ∧
      ∃ j ≤ n, pos j = ⟨inner :: (between ++ outer :: base), header⟩ := by
  obtain ⟨header, hd, hstart⟩ := h.entry
  obtain ⟨-, j, hj, hentered, hat⟩ :=
    h.path.entered (congrArg stack hstart) (Nat.le_refl n) hs
  rw [hf, hd] at hat
  exact ⟨header, hstart, j, hj, Position.ext hentered (Option.some.inj hat).symm⟩

/-- No move returns from a call that was made in the course of a call of the same function. -/
theorem Recorded.keeps (h : Recorded p a) (hf : inner.function = outer.function)
    (hs : a.stack = above ++ inner :: (between ++ outer :: base)) (hmove : Move p a b) :
    ∃ above', b.stack = above' ++ inner :: (between ++ outer :: base) := by
  obtain ⟨stack, index⟩ := a
  obtain rfl : stack = above ++ inner :: (between ++ outer :: base) := hs
  rcases hmove.rebase with ⟨above', cursor', rfl, -⟩ | ⟨rfl, rfl⟩
  · exact ⟨above', rfl⟩
  · -- after the return the outer call is still under way, but then so is the inner one
    obtain ⟨n, pos, hpast, hnow⟩ := h (inner :: between) outer base rfl
    obtain ⟨header, hstart, j, hj, hentry⟩ :=
      hpast.entered hf (congrArg Position.stack hnow)
    obtain ⟨pos', hpast', hlast, hbefore⟩ := hpast.append (hnow ▸ hmove) rfl
    rw [← hbefore 0 (Nat.zero_le n)] at hstart
    rw [← hbefore j hj] at hentry
    obtain ⟨top, here, hstill⟩ := hpast'.path.inner_under_way hf hpast'.under_way hstart hentry
      (Nat.le_succ_of_le hj) (Nat.le_refl _)
    have hlen := congrArg (·.stack.length) (hlast.symm.trans hstill)
    simp only [List.length_append, List.length_cons] at hlen
    omega

end Position

namespace Engine

variable {limit : Nat} {e : Engine} {p : Program} {inner outer : Frame}
  {above between below : List Frame}

/-- Every call of a reachable engine has a past. -/
theorem Reachable.recorded (h : Reachable limit e) (hp : e.program? = some p) :
    Position.Recorded p e.position := by
  induction h with
  | initial => exact .of_nil rfl
  | load source h ih => exact .of_nil rfl
  | reset h ih => exact .of_nil rfl
  | @step e h ih =>
    rw [step_program?] at hp
    by_cases hend : e.atEnd
    · rw [step_of_atEnd hp hend]
      exact ih hp
    · rcases move_or_fail_of_step hp (Bool.eq_false_iff.2 hend) with hmove | ⟨error, hfail⟩
      · exact hmove.recorded (ih hp)
      · rw [hfail]
        exact ih hp

/-- With a call under way there is a program. -/
theorem Reachable.exists_program (h : Reachable limit e) (hs : e.stack ≠ []) :
    ∃ p, e.program? = some p := by
  cases hp : e.program? with
  | some p => exact ⟨p, rfl⟩
  | none => exact absurd (h.stays_in_region.1 hp).1 hs

/-! ### Steps -/

/-- No step returns from a call that was made in the course of a call of the same function. -/
theorem Reachable.step_keeps (h : Reachable limit e) (hf : inner.function = outer.function)
    (hs : e.stack = above ++ inner :: (between ++ outer :: below)) :
    ∃ above', e.step.state.stack = above' ++ inner :: (between ++ outer :: below) := by
  have hcalls : e.stack ≠ [] := by
    rw [hs]
    simp
  obtain ⟨p, hp⟩ := h.exists_program hcalls
  rcases move_or_fail_of_step hp (atEnd_of_stack_ne_nil hp hcalls) with hmove | ⟨error, hfail⟩
  · exact (h.recorded hp).keeps hf hs hmove
  · rw [hfail]
    exact ⟨above, hs⟩

theorem Reachable.steps_keep (h : Reachable limit e) (hf : inner.function = outer.function)
    (hs : e.stack = above ++ inner :: (between ++ outer :: below)) (n : Nat) :
    ∃ above', (e.steps n).state.stack = above' ++ inner :: (between ++ outer :: below) := by
  let P := fun e : Engine => Reachable limit e ∧
    ∃ above', e.stack = above' ++ inner :: (between ++ outer :: below)
  have hstep : ∀ e, P e → P e.step.state := by
    rintro e ⟨hreachable, above', hs'⟩
    exact ⟨hreachable.step, hreachable.step_keeps hf hs'⟩
  exact (steps_invariant hstep ⟨h, above, hs⟩ n).2

/-- Steps do not return from these calls, however many are made. They come to an error if nothing
stops them before, and the first thing to stop them is an error or a variable that is missing. -/
structure NeverReturns (e : Engine) (calls : List Frame) : Prop where
  under_way : ∀ n, calls <:+ (e.steps n).state.stack
  not_over : ∀ n, (e.steps n).state.atEnd = false
  fails : ∃ n ≤ e.remaining + 1, ∃ error, (e.steps n).error? = some error
  stops : ∃ n ≤ e.remaining + 1, e.FirstStop (fun _ => false) n ∧
    (ending? (e.steps n) = some .missingVariable ∨
      ∃ error, ending? (e.steps n) = some (.failed error))

/-- A call in the course of a call of the same function never returns. -/
theorem Reachable.neverReturns (h : Reachable limit e) (hf : inner.function = outer.function)
    (hs : e.stack = above ++ inner :: (between ++ outer :: below)) :
    e.NeverReturns (inner :: (between ++ outer :: below)) := by
  have hunder := h.steps_keep hf hs
  obtain ⟨p, hp⟩ := h.exists_program (by rw [hs]; simp)
  have hgoing : ∀ n, (e.steps n).state.atEnd = false := by
    intro n
    obtain ⟨above', hs'⟩ := hunder n
    refine atEnd_of_stack_ne_nil (by rw [steps_program?, hp]) ?_
    rw [hs']
    simp
  refine ⟨?_, hgoing, ?_, ?_⟩
  · intro n
    obtain ⟨above', hs'⟩ := hunder n
    rw [hs']
    exact List.suffix_append _ _
  · obtain ⟨n, hn, herr | hend⟩ := exists_error_or_atEnd hp
    · exact ⟨n, hn, Option.isSome_iff_exists.1 herr⟩
    · exact absurd hend (by simp [hgoing n])
  · obtain ⟨n, hn, hstop, -⟩ := exists_firstStop (fun _ => false) hp
    refine ⟨n, hn, hstop, ?_⟩
    obtain ⟨ending, hending⟩ := Option.isSome_iff_exists.1 (hstop.stops.resolve_right (by simp))
    rcases ending with _ | _ | error
    · -- the program cannot have been carried out to its last line
      exfalso
      rw [ending?] at hending
      split at hending
      · cases hending
      · simp [ended?, hgoing n] at hending
    · exact .inl hending
    · exact .inr ⟨error, hending⟩

/-! ### Executions that come to the end of the program -/

/-- Among calls that are not all of different functions there are two of the same. -/
theorem exists_repeated_of_not_nodup {calls : List Frame}
    (h : ¬(calls.map Frame.function).Nodup) :
    ∃ above inner between outer below, calls = above ++ inner :: (between ++ outer :: below) ∧
      inner.function = outer.function := by
  induction calls with
  | nil => exact absurd List.nodup_nil h
  | cons frame calls ih =>
    by_cases hmem : frame.function ∈ calls.map Frame.function
    · obtain ⟨outer, houter, hf⟩ := List.mem_map.1 hmem
      obtain ⟨between, below, rfl⟩ := List.append_of_mem houter
      exact ⟨[], frame, between, outer, below, rfl, hf.symm⟩
    · rw [List.map_cons, List.nodup_cons] at h
      obtain ⟨above, inner, between, outer, below, rfl, hf⟩ := ih fun hrest => h ⟨hmem, hrest⟩
      exact ⟨frame :: above, inner, between, outer, below, rfl, hf⟩

/-- An engine from which steps lead to the end of the program has no more calls under way than the
program has names for functions. -/
theorem Reachable.stack_length_le_of_atEnd (h : Reachable limit e) (hp : e.program? = some p)
    {n : Nat} (hend : (e.steps n).state.atEnd) : e.stack.length ≤ p.functionNames.length := by
  have hnodup : (e.stack.map Frame.function).Nodup := by
    by_contra hrepeated
    obtain ⟨above, inner, between, outer, below, hs, hf⟩ := exists_repeated_of_not_nodup hrepeated
    exact absurd hend (by simp [(h.neverReturns hf hs).not_over n])
  have hsubset : e.stack.map Frame.function ⊆ p.functionNames := by
    intro name hname
    obtain ⟨frame, hframe, rfl⟩ := List.mem_map.1 hname
    obtain ⟨header, hd⟩ := ((placed_iff hp).1 h.placed).defined hframe
    exact mem_functionNames hd
  simpa using hnodup.length_le_of_subset hsubset

/-- An engine with a limit on calls, on the first line of a program. -/
def fresh (source : String) (limit : Nat) : Engine := ((Engine.initial limit).load source).state

theorem reachable_fresh (source : String) (limit : Nat) : Reachable limit (fresh source limit) :=
  .load source .initial

/-- If a program comes to its end with one limit on calls, it does so in the same way with any limit
that allows for as many calls as the program has names for functions. -/
theorem steps_of_functionNames_le {source : String} {limit limit' n : Nat}
    (herr : ((fresh source limit).steps n).error? = none)
    (hle : ∀ j ≤ n, ((fresh source limit).steps j).state.stack.length ≤
      (Program.ofSource source).functionNames.length)
    (hallowed : (Program.ofSource source).functionNames.length ≤ limit') :
    (fresh source limit').steps n = ((fresh source limit).steps n).map (·.withLimit limit') := by
  have hp : (fresh source limit).program? = some (.ofSource source) := rfl
  exact steps_withLimit hp herr fun j hj => Nat.le_trans (hle j hj) hallowed

/-- **Recursion never completes.** If two calls of the same function are under way, the upper one
never returns and the program never comes to its end: there is an error at last, or a variable that
is missing stops the execution before. So an execution from the first line to the end of the program
never has more calls under way than the program has names for functions, and is the same with every
limit on calls that allows for so many. -/
theorem recursion_never_completes (limit : Nat) :
    (∀ e, Reachable limit e → ∀ above inner between outer below,
      e.stack = above ++ inner :: (between ++ outer :: below) → inner.function = outer.function →
        e.NeverReturns (inner :: (between ++ outer :: below))) ∧
    ∀ source n, ((fresh source limit).steps n).error? = none →
      ((fresh source limit).steps n).state.atEnd →
        (∀ j ≤ n, ((fresh source limit).steps j).state.stack.length ≤
          (Program.ofSource source).functionNames.length) ∧
        ∀ limit', (Program.ofSource source).functionNames.length ≤ limit' →
          (fresh source limit').steps n =
            ((fresh source limit).steps n).map (·.withLimit limit') := by
  constructor
  · intro e h above inner between outer below hs hf
    exact h.neverReturns hf hs
  · intro source n herr hend
    have hle : ∀ j ≤ n, ((fresh source limit).steps j).state.stack.length ≤
        (Program.ofSource source).functionNames.length := by
      intro j hj
      obtain ⟨d, rfl⟩ := Nat.exists_eq_add_of_le hj
      rw [steps_add_of_success (steps_error?_of_le hj herr)] at hend
      exact ((reachable_fresh source limit).steps j).stack_length_le_of_atEnd
        (by rw [steps_program?]; rfl) hend
    exact ⟨hle, fun limit' hallowed => steps_of_functionNames_le herr hle hallowed⟩

/-- Two functions that call each other without an end, with room for three calls. -/
def endlessPair : String := "def f\n    call g\ndef g\n    call f\ncall f"

/-- One function calls the other, and both return. -/
def callTwice : String := "def f\n    call g\ndef g\n    set a 1\ncall f"

/-- The first of the two programs never leaves the second call of the same function, and the second
one ends in the same way with room for a thousand calls and with room for two. -/
theorem endlessPair_never_returns :
    ((fresh endlessPair 3).steps 7).state.stack = [⟨"f", 3⟩, ⟨"g", 1⟩, ⟨"f", 4⟩] ∧
      ((fresh endlessPair 3).steps 7).state.NeverReturns [⟨"f", 3⟩, ⟨"g", 1⟩, ⟨"f", 4⟩] ∧
    ((fresh callTwice 1000).steps 9).error? = none ∧ ((fresh callTwice 1000).steps 9).state.atEnd ∧
      (Program.ofSource callTwice).functionNames.length ≤ 2 ∧
        (fresh callTwice 2).steps 9 = ((fresh callTwice 1000).steps 9).map (·.withLimit 2) := by
  have hs : ((fresh endlessPair 3).steps 7).state.stack = [⟨"f", 3⟩, ⟨"g", 1⟩, ⟨"f", 4⟩] := by
    decide +kernel
  have hreachable : Reachable 3 ((fresh endlessPair 3).steps 7).state :=
    (reachable_fresh endlessPair 3).steps 7
  have herr : ((fresh callTwice 1000).steps 9).error? = none := by decide +kernel
  have hend : ((fresh callTwice 1000).steps 9).state.atEnd := by decide +kernel
  have hnames : (Program.ofSource callTwice).functionNames.length ≤ 2 := by decide +kernel
  exact ⟨hs, (recursion_never_completes 3).1 _ hreachable [] ⟨"f", 3⟩ [⟨"g", 1⟩] ⟨"f", 4⟩ [] hs rfl,
    herr, hend, hnames, ((recursion_never_completes 1000).2 callTwice 9 herr hend).2 2 hnames⟩

end Engine

end LineDebugger
