import LineDebugger.Proofs.Interpreter
import LineDebugger.Proofs.Memory.Listing
import LineDebugger.Proofs.Text.Numeral

/-!
# Subtraction is exact

A `sub` is a `set` to the difference, and the only question is what becomes of a difference that
does not fit 64 bits. The operand may be any number of this width, negative ones included, so the
range could be left at both ends. It can be left at the upper end only. Values in memory are
positive, and even the largest operand does not take a positive number as far down as the range
goes.

That the values are positive cannot be seen from the statement. It holds because of everything that
was executed before, and so the interpreter has to be traced back to its beginning. What a statement
does to memory is a change or two, or none; then memory stands for a list, and lists have positive
values after any changes. From the same list it is seen that a subtraction leaves the order of the
variables alone, and all the other variables.

## Main definitions

* `Interpreter.Reachable` — the interpreters that statements lead to

## Main results

* `Interpreter.Reachable.exists_changes` — memory has come about by changes
* `Interpreter.execute_sub` — what a subtraction can come to
* `Interpreter.Reachable.sub_is_exact` — and which difference comes to which
-/

namespace LineDebugger

/-- The two outcomes differ at most in what they log. -/
structure Outcome.SameEffect {σ ε : Type} (o p : Outcome σ ε) : Prop where
  state : o.state = p.state
  outputs : outputs o.events = outputs p.events
  error? : o.error? = p.error?

namespace Interpreter

/-- The interpreters that statements lead to. Starting anew leads back to the first one. -/
inductive Reachable : Interpreter → Prop
  | initial : Reachable initial
  | execute {i : Interpreter} (s : Statement) (h : Reachable i) : Reachable (i.execute s).state

variable {i : Interpreter} {s : Statement} {o : Outcome Interpreter ProgramError} {name : String}
  {current v : Variable} {amount value : Int64} {line : Nat}

/-! ### Memory has come about by changes -/

theorem Execution.exists_changes (h : Execution i s o) :
    ∃ changes, o.state.memory = i.memory.applyAll changes := by
  cases h with
  | missing => exact ⟨[], rfl⟩
  | @stored value next _ _ hassign =>
    refine ⟨[.assign s.name value s.line, .stamp s.name s.line], ?_⟩
    rw [Memory.applyAll, List.foldl_cons, Memory.apply, hassign]
    rfl
  | printed => exact ⟨[], rfl⟩
  | removed => exact ⟨[.remove s.name], rfl⟩
  | failed => exact ⟨[], rfl⟩

/-- Memory has come about by changes. -/
theorem Reachable.exists_changes (h : Reachable i) :
    ∃ changes, i.memory = Memory.empty.applyAll changes := by
  induction h with
  | initial => exact ⟨[], rfl⟩
  | @execute i s _ ih =>
    obtain ⟨before, hbefore⟩ := ih
    obtain ⟨more, hmore⟩ := (i.execution s).exists_changes
    refine ⟨before ++ more, ?_⟩
    rw [hmore, hbefore, Memory.applyAll, Memory.applyAll, Memory.applyAll, List.foldl_append]

/-- Memory stands for what it lists. -/
theorem Reachable.represents (h : Reachable i) : i.memory.Represents i.memory.toList := by
  obtain ⟨changes, hchanges⟩ := h.exists_changes
  have hrep := Memory.Represents.empty.applyAll changes
  rw [← hchanges] at hrep
  rwa [hrep.toList_eq]

/-- Values in memory are positive. -/
theorem Reachable.positive (h : Reachable i) (hfind : i.memory.find? name = some v) :
    1 ≤ v.value.toInt := by
  obtain ⟨changes, hchanges⟩ := h.exists_changes
  rw [hchanges, (Memory.Represents.empty.applyAll changes).find?] at hfind
  exact Listing.positive_nil.applyAll changes _ hfind

/-! ### What a subtraction comes to -/

/-- A subtraction has the difference for its variable. -/
theorem gives_sub {n : Int} (hcurrent : i.memory.find? name = some current)
    (h : Statement.Gives ⟨.sub, name, some amount, line⟩ i.memory n) :
    n = current.value.toInt - amount.toInt := by
  cases h with
  | set hop _ => cases hop
  | sub _ hfind hoperand =>
    obtain rfl := Option.some.inj (hcurrent.symm.trans hfind)
    obtain rfl := Option.some.inj hoperand
    rfl

/-- A difference that fits is stored as a `set` would store it. -/
theorem execute_sub_sameEffect (hcurrent : i.memory.find? name = some current)
    (hrest : value.toInt = current.value.toInt - amount.toInt) (line : Nat) :
    (i.execute ⟨.sub, name, some amount, line⟩).SameEffect
      (i.execute ⟨.set, name, some value, line⟩) := by
  have hperform :
      i.perform ⟨.sub, name, some amount, line⟩ = i.perform ⟨.set, name, some value, line⟩ := by
    simp only [perform, hcurrent, Numeral.ofInt?_eq_some_iff.2 hrest]
    rfl
  rw [execute, execute, hperform]
  -- Only the log tells which of the two statements it was.
  exact ⟨rfl, rfl, rfl⟩

/-- A subtraction from a positive value is refused because the difference is too large, or because
it is not positive, or else it is stored. -/
theorem execute_sub (hcurrent : i.memory.find? name = some current)
    (hpos : 1 ≤ current.value.toInt) (amount : Int64) (line : Nat) :
    let s : Statement := ⟨.sub, name, some amount, line⟩
    let rest := current.value.toInt - amount.toInt
    (Int64.maxValue.toInt < rest ∧
        i.execute s =
          (Outcome.fail i (.malformed line s.text .valueOutOfRange)).after [.executing s]) ∨
      ∃ value : Int64, value.toInt = rest ∧
        ((rest ≤ 0 ∧
            i.execute s = (Outcome.fail i (.invalidValue name value line)).after [.executing s]) ∨
          (0 < rest ∧ ∃ next, i.memory.assign name value line = .ok next ∧
            i.execute s = .done { i with memory := next.stamp name line } [.executing s])) := by
  intro s rest
  have hex := i.execution s
  generalize i.execute s = o at hex ⊢
  cases hex with
  | missing _ hno =>
    rw [hcurrent] at hno
    cases hno
  | @stored value next hgives hstored hassign =>
    have hvalue := gives_sub hcurrent hgives
    rw [hvalue] at hstored
    exact .inr ⟨value, hvalue, .inr ⟨hstored, next, hassign, rfl⟩⟩
  | printed hop => cases hop
  | removed hop => cases hop
  | failed hfault =>
    cases hfault with
    | outOfRange hgives hrange =>
      obtain rfl := gives_sub hcurrent hgives
      have hamount := amount.toInt_le
      have hbounds : Int64.minValue.toInt = -Int64.maxValue.toInt - 1 := rfl
      refine .inl ⟨?_, rfl⟩
      rcases Numeral.ofInt?_eq_none_iff.1 hrange with hlow | hhigh
      · -- The lower end is out of reach, because the value is positive.
        omega
      · exact hhigh
    | @notPositive value hgives hle =>
      have hvalue := gives_sub hcurrent hgives
      rw [hvalue] at hle
      exact .inr ⟨value, hvalue, .inl ⟨hle, rfl⟩⟩
    | missingValue _ hno => cases hno
    | unexpectedValue hop => rcases hop with hop | hop <;> cases hop

/-- **Subtraction is exact.** Take any amount off a variable of an interpreter that statements have
led to. The difference is never too small for 64 bits, and if it is not too large either, the
statement does what setting the variable to the difference would do. It fails as out of range
exactly if the difference is too large, and as no valid value exactly if the difference is not
positive, and the error has the difference. A failure changes nothing. Otherwise the variable is
replaced where it stands by one with the difference and the line of the statement, and all others
are as they were. -/
theorem Reachable.sub_is_exact (h : Reachable i) (hcurrent : i.memory.find? name = some current)
    (amount : Int64) (line : Nat) :
    let s : Statement := ⟨.sub, name, some amount, line⟩
    let rest := current.value.toInt - amount.toInt
    let o := i.execute s
    (rest ≤ Int64.maxValue.toInt → ∃ value : Int64, value.toInt = rest ∧
        o.SameEffect (i.execute ⟨.set, name, some value, line⟩)) ∧
      Int64.minValue.toInt < rest ∧
        (o.error? = some (.malformed line s.text .valueOutOfRange) ↔
            Int64.maxValue.toInt < rest) ∧
          ((∃ value : Int64, value.toInt = rest ∧
              o.error? = some (.invalidValue name value line)) ↔ rest ≤ 0) ∧
            (o.error? = none ↔ 0 < rest ∧ rest ≤ Int64.maxValue.toInt) ∧
              (∀ error, o.error? = some error → o.state = i) ∧
                (o.error? = none → ∃ value : Int64, value.toInt = rest ∧
                  o.state.memory.toList =
                    Listing.update i.memory.toList name fun _ => ⟨value, line⟩) ∧
                  outputs o.events = [] ∧ o.state.succeeded = i.succeeded := by
  intro s rest o
  have hpos := h.positive hcurrent
  have hamount := amount.toInt_le
  have hbounds : Int64.minValue.toInt = -Int64.maxValue.toInt - 1 := rfl
  have hmax : 0 < Int64.maxValue.toInt := by decide
  have hlow : Int64.minValue.toInt < rest := by omega
  have hname : name ∈ Listing.names i.memory.toList :=
    Listing.mem_names_iff.2 ⟨current, (h.represents.find? name current).1 hcurrent⟩
  rcases execute_sub hcurrent hpos amount line with ⟨hhigh, ho⟩ | ⟨value, hvalue, hstored⟩
  · have hhigh : Int64.maxValue.toInt < rest := hhigh
    rw [show o = _ from ho]
    refine ⟨by omega, hlow, iff_of_true rfl hhigh, iff_of_false ?_ (by omega),
      iff_of_false ?_ (by omega), fun _ _ => rfl, ?_, rfl, rfl⟩
    · rintro ⟨_, -, ⟨⟩⟩
    · rintro ⟨⟩
    · rintro ⟨⟩
  · have hset : o.SameEffect _ := execute_sub_sameEffect hcurrent hvalue line
    have hvalue : value.toInt = rest := hvalue
    have hfits := value.toInt_le
    refine ⟨fun _ => ⟨value, hvalue, hset⟩, hlow, ?_⟩
    rcases hstored with ⟨hle, ho⟩ | ⟨hgt, next, hassign, ho⟩
    · have hle : rest ≤ 0 := hle
      rw [show o = _ from ho]
      refine ⟨iff_of_false ?_ (by omega), iff_of_true ⟨value, hvalue, rfl⟩ hle,
        iff_of_false ?_ (by omega), fun _ _ => rfl, ?_, rfl, rfl⟩
      · rintro ⟨⟩
      · rintro ⟨⟩
      · rintro ⟨⟩
    · have hgt : 0 < rest := hgt
      rw [show o = _ from ho]
      refine ⟨iff_of_false ?_ (by omega), iff_of_false ?_ (by omega),
        iff_of_true rfl (by omega), ?_, fun _ => ⟨value, hvalue, ?_⟩, rfl, rfl⟩
      · rintro ⟨⟩
      · rintro ⟨_, -, ⟨⟩⟩
      · rintro _ ⟨⟩
      · exact h.represents.toList_stamp_of_assign hassign hname

/-- Two variables are set. -/
def withTwoVariables : Interpreter :=
  ((initial.execute ⟨.set, "a", some 2, 0⟩).state.execute ⟨.set, "b", some 7, 1⟩).state

/-- The smallest operand there is takes the first of them out of range. -/
theorem withTwoVariables_sub :
    withTwoVariables.Reachable ∧ withTwoVariables.memory.find? "a" = some ⟨2, 0⟩ ∧
      let o := withTwoVariables.execute ⟨.sub, "a", some Int64.minValue, 2⟩
      o.error? = some (.malformed 2 "sub a -9223372036854775808" .valueOutOfRange) ∧
        o.state = withTwoVariables := by
  have h : withTwoVariables.Reachable := .execute _ (.execute _ .initial)
  have hcurrent : withTwoVariables.memory.find? "a" = some ⟨2, 0⟩ := by decide +kernel
  obtain ⟨-, -, hrange, -, -, hunchanged, -⟩ := h.sub_is_exact hcurrent Int64.minValue 2
  have herror := hrange.2 (by decide)
  exact ⟨h, hcurrent, herror, hunchanged _ herror⟩

end Interpreter

end LineDebugger
