import LineDebugger.Interpreter
import LineDebugger.Proofs.Memory

/-!
# What a statement does

Executing a statement is decided in three stages: is the variable there, does the operation have the
operand that it needs, and can the number be stored. The stages come in this order, and each can be
the last one. So what an execution can be is a short list: the variable is missing, and this is told
and remembered; a number is stored; the value is printed; the variable is removed; or the statement
is at fault, and nothing but the log has heard of it.

The list is complete, and everything about single statements is read off it. What happens in a
fault needs no list of its own for the memory: there is only one way to fail, with everything as it
was.

## Main definitions

* `Statement.Gives` — the number that a statement has for its variable
* `Statement.Fault` — what is wrong with executing a statement, and the error that says so
* `Interpreter.Execution` — what the execution of a statement can be

## Main results

* `Interpreter.execution` — it is one of these
-/

namespace LineDebugger

/-- The statement has this number for its variable: the operand of `set`, or what is left when the
operand of `sub` is taken off the value of the variable. -/
inductive Statement.Gives (s : Statement) (m : Memory) : Int → Prop
  | set {value : Int64} (hop : s.operation = .set) (hvalue : s.operand = some value) :
      Gives s m value.toInt
  | sub {current : Variable} {amount : Int64} (hop : s.operation = .sub)
      (hcurrent : m.find? s.name = some current) (hamount : s.operand = some amount) :
      Gives s m (current.value.toInt - amount.toInt)

/-- The statement cannot be executed with this memory, and this is the error. -/
inductive Statement.Fault (s : Statement) (m : Memory) : ProgramError → Prop
  /-- The number does not fit 64 bits. -/
  | outOfRange {n : Int} (hgives : s.Gives m n) (hrange : Numeral.ofInt? n = none) :
      Fault s m (.malformed s.line s.text .valueOutOfRange)
  /-- The number is not positive. -/
  | notPositive {value : Int64} (hgives : s.Gives m value.toInt) (hle : value.toInt ≤ 0) :
      Fault s m (.invalidValue s.name value s.line)
  /-- There is no operand. A `sub` finds that out only if the variable is there. -/
  | missingValue
      (hop : s.operation = .set ∨ s.operation = .sub ∧ ∃ current, m.find? s.name = some current)
      (hno : s.operand = none) : Fault s m (.malformed s.line s.text .missingValue)
  /-- There is an operand that the operation does not take. -/
  | unexpectedValue {current : Variable} {value : Int64}
      (hop : s.operation = .print ∨ s.operation = .rem) (hcurrent : m.find? s.name = some current)
      (hvalue : s.operand = some value) : Fault s m (.malformed s.line s.text .unexpectedValue)

/-- The error names the line of the statement. -/
theorem Statement.Fault.line {s : Statement} {m : Memory} {error : ProgramError}
    (h : s.Fault m error) : error.line = s.line := by
  cases h <;> rfl

namespace Interpreter

/-- What the execution of a statement can be. -/
inductive Execution (i : Interpreter) (s : Statement) : Outcome Interpreter ProgramError → Prop
  /-- The variable is missing. -/
  | missing (hop : s.operation ≠ .set) (hno : i.memory.find? s.name = none) :
      Execution i s (.done { i with succeeded := false } [.executing s, .variableMissing])
  /-- A number is stored. -/
  | stored {value : Int64} {next : Memory} (hgives : s.Gives i.memory value.toInt)
      (hpos : 0 < value.toInt) (hassign : i.memory.assign s.name value s.line = .ok next) :
      Execution i s (.done { i with memory := next.stamp s.name s.line } [.executing s])
  /-- The value of the variable is printed. -/
  | printed {current : Variable} (hop : s.operation = .print) (hno : s.operand = none)
      (hcurrent : i.memory.find? s.name = some current) :
      Execution i s (.done i [.executing s, .printed current.value])
  /-- The variable is removed. -/
  | removed {current : Variable} (hop : s.operation = .rem) (hno : s.operand = none)
      (hcurrent : i.memory.find? s.name = some current) :
      Execution i s (.done { i with memory := i.memory.remove s.name } [.executing s])
  /-- The statement is at fault. -/
  | failed {error : ProgramError} (hfault : s.Fault i.memory error) :
      Execution i s ((Outcome.fail i error).after [.executing s])

variable {i : Interpreter} {s : Statement}

/-- A number that fits is stored if it is positive. -/
theorem store_execution {value : Int64} (hgives : s.Gives i.memory value.toInt) :
    Execution i s ((i.store s value).after [.executing s]) := by
  rw [store]
  by_cases hle : value ≤ 0
  · rw [Memory.assign_of_le hle]
    exact .failed (.notPositive hgives (Int64.le_iff_toInt_le.1 hle))
  · obtain ⟨next, hnext⟩ := Memory.exists_assign hle i.memory s.name s.line
    have hpos : 0 < value.toInt := by
      rw [Int64.le_iff_toInt_le, Int64.toInt_zero] at hle
      exact Int.not_le.1 hle
    rw [hnext]
    exact .stored hgives hpos hnext

/-- The execution of a statement is one of these. -/
theorem execution (i : Interpreter) (s : Statement) : Execution i s (i.execute s) := by
  rw [execute, perform]
  split
  · next hop =>
    cases hoperand : s.operand with
    | none => exact .failed (.missingValue (.inl hop) hoperand)
    | some value => exact store_execution (.set hop hoperand)
  · next hno hset => exact .missing hset hno
  · next current hop hcurrent =>
    cases hoperand : s.operand with
    | none => exact .failed (.missingValue (.inr ⟨hop, current, hcurrent⟩) hoperand)
    | some amount =>
      have hgives := Statement.Gives.sub hop hcurrent hoperand
      dsimp only
      split
      · next hrange => exact .failed (.outOfRange hgives hrange)
      · next difference hfits =>
        rw [← Numeral.toInt_of_ofInt?_eq_some hfits] at hgives
        exact store_execution hgives
  · next current hop hcurrent =>
    cases hoperand : s.operand with
    | none => exact .printed hop hoperand hcurrent
    | some value => exact .failed (.unexpectedValue (.inl hop) hcurrent hoperand)
  · next current hop hcurrent =>
    cases hoperand : s.operand with
    | none => exact .removed hop hoperand hcurrent
    | some value => exact .failed (.unexpectedValue (.inr hop) hcurrent hoperand)

end Interpreter

/-! ### Output -/

namespace Statement

variable {s : Statement} {m : Memory}

/-- Does the statement need a variable that is not in memory? -/
def misses (s : Statement) (m : Memory) : Bool := s.operation != .set && !m.contains s.name

/-- The value that the statement prints, if it prints one. -/
def printed? (s : Statement) (m : Memory) : Option Int64 :=
  if s.operation = .print ∧ s.operand = none then (m.find? s.name).map Variable.value else none

theorem misses_of_find? {current : Variable} (h : m.find? s.name = some current) :
    s.misses m = false := by
  simp [misses, Memory.contains, h]

/-- Without its variable a statement prints nothing. -/
theorem printed?_of_misses (h : s.misses m) : s.printed? m = none := by
  rw [misses, Bool.and_eq_true, Bool.not_eq_true', Memory.contains,
    Option.isSome_eq_false_iff, Option.isNone_iff_eq_none] at h
  rw [printed?, h.2]
  exact ite_self _

theorem printed?_of_ne (h : s.operation ≠ .print) : s.printed? m = none :=
  if_neg fun hprint => h hprint.1

/-- A statement that has a number for its variable finds it, or needs none, and prints nothing. -/
theorem Gives.silent {n : Int} (h : s.Gives m n) : s.misses m = false ∧ s.printed? m = none := by
  cases h with
  | set hop hvalue => exact ⟨by simp [misses, hop], printed?_of_ne (by simp [hop])⟩
  | sub hop hcurrent hamount => exact ⟨misses_of_find? hcurrent, printed?_of_ne (by simp [hop])⟩

/-- A statement that is at fault finds its variable, or needs none, and prints nothing. -/
theorem Fault.silent {error : ProgramError} (h : s.Fault m error) :
    s.misses m = false ∧ s.printed? m = none := by
  cases h with
  | outOfRange hgives hrange => exact hgives.silent
  | notPositive hgives hle => exact hgives.silent
  | missingValue hop hno =>
    rcases hop with hop | ⟨hop, current, hcurrent⟩
    · exact ⟨by simp [misses, hop], printed?_of_ne (by simp [hop])⟩
    · exact ⟨misses_of_find? hcurrent, printed?_of_ne (by simp [hop])⟩
  | unexpectedValue hop hcurrent hvalue =>
    exact ⟨misses_of_find? hcurrent, if_neg fun hprint => by simp [hvalue] at hprint⟩

end Statement

/-- A statement whose variable is missing puts out the message, and its execution succeeds with the
flag down. Any other statement puts out the value that it prints, if it prints one, and leaves the
flag as it is. -/
theorem Interpreter.execute_output (i : Interpreter) (s : Statement) :
    (s.misses i.memory ∧ outputs (i.execute s).events = [missingVariableMessage] ∧
        (i.execute s).error? = none ∧ (i.execute s).state.succeeded = false) ∨
      (s.misses i.memory = false ∧
        outputs (i.execute s).events =
            ((s.printed? i.memory).map fun value => toString value.toInt).toList ∧
          (i.execute s).state.succeeded = i.succeeded) := by
  have h := i.execution s
  generalize i.execute s = o at h ⊢
  cases h with
  | missing hop hno =>
    exact .inl ⟨by simp [Statement.misses, Memory.contains, hop, hno], rfl, rfl, rfl⟩
  | stored hgives hpos hassign =>
    obtain ⟨hfound, hnothing⟩ := hgives.silent
    exact .inr ⟨hfound, by rw [hnothing]; rfl, rfl⟩
  | printed hop hno hcurrent =>
    have hprinted : s.printed? i.memory = some _ :=
      (if_pos ⟨hop, hno⟩).trans (by rw [hcurrent]; rfl)
    exact .inr ⟨Statement.misses_of_find? hcurrent, by rw [hprinted]; rfl, rfl⟩
  | removed hop hno hcurrent =>
    have hnothing : s.printed? i.memory = none := Statement.printed?_of_ne (by simp [hop])
    exact .inr ⟨Statement.misses_of_find? hcurrent, by rw [hnothing]; rfl, rfl⟩
  | failed hfault =>
    obtain ⟨hfound, hnothing⟩ := hfault.silent
    exact .inr ⟨hfound, by rw [hnothing]; rfl, rfl⟩

end LineDebugger
