import LineDebugger.Proofs.Engine.Execution
import LineDebugger.Proofs.Engine.Termination
import LineDebugger.Proofs.Session.History

/-!
# Where the variables come from

Listing the memory shows of every variable its value and a line. The line is meant to say where the
value comes from, but nothing in memory ties the two together: storing a value and stamping the
variable are separate operations, the cursor is already on the next line when both are made, and a
statement that fails must do neither.

That the line is right is a fact about steps. There is only one kind of step after which a variable
is not as it was before: the execution of a `set` or a `sub` of this variable, from the line that it
is stamped with. So every variable has an *origin*, an earlier state of the same program in which
the next step stored just this variable, and since then it has stayed the same. What the line
reads as, and that the value is positive, follows from the origin.

## Main definitions

* `Engine.Stores` — the next step stores this variable
* `Engine.Origin` — it did so there, and the variable has stayed the same since then
* `Program.Explains` — the line of a variable says how it came to its value
* `Engine.Explained` — it does, and it was there that the variable got it

## Main results

* `Engine.kept_or_stores` — what a step can do to a variable
* `Engine.Reachable.exists_origin` — every variable has an origin
* `Session.Reachable.memory_is_explained` — every line that a listing shows is the right one
-/

namespace LineDebugger

/-- The line of the variable is a line of the program, and one that changes this variable. If it
sets the variable, then to the value that it has. -/
structure Program.Explains (p : Program) (name : String) (v : Variable) : Prop where
  positive : 1 ≤ v.value.toInt
  line_lt : v.line < p.size
  changes : ∃ s, p.read v.line = .ok (.statement s) ∧ s.name = name ∧
    (s.operation = .set ∧ s.operand = some v.value ∨ s.operation = .sub)

/-- Only `set` and `sub` have a number for their variable, and `set` has its operand. -/
theorem Statement.Gives.operation {s : Statement} {m : Memory} {value : Int64}
    (h : s.Gives m value.toInt) :
    s.operation = .set ∧ s.operand = some value ∨ s.operation = .sub := by
  generalize hn : value.toInt = n at h
  cases h with
  | set hop hvalue =>
    obtain rfl := Int64.toInt_inj.1 hn
    exact .inl ⟨hop, hvalue⟩
  | sub hop hcurrent hamount => exact .inr hop

namespace Engine

variable {limit : Nat} {e : Engine} {p : Program} {name : String} {v : Variable}

/-- The next step stores this variable: it executes a statement that has the value for it, on the
line that the variable is stamped with. -/
structure Stores (e : Engine) (name : String) (v : Variable) : Prop where
  line : v.line = e.cursor
  positive : 1 ≤ v.value.toInt
  gives : ∃ s, e.statement? = some s ∧ s.name = name ∧
    s.Gives e.interpreter.memory v.value.toInt

/-- What is stored is explained by the program. -/
theorem Stores.explains (hp : e.program? = some p) (h : e.Stores name v) : p.Explains name v := by
  obtain ⟨s, hs, hname, hgives⟩ := h.gives
  obtain ⟨hr, hl⟩ := (statement?_eq_some_iff hp).1 hs
  rw [← h.line] at hr hl
  exact ⟨h.positive, hr.lt_size, s, hl, hname, hgives.operation⟩

/-- A variable that is there after a step was there before, or the step stored it. -/
theorem kept_or_stores (h : e.step.state.interpreter.memory.find? name = some v) :
    e.interpreter.memory.find? name = some v ∨ e.Stores name v := by
  cases hs : e.statement? with
  | none => exact .inl (by rwa [(step_of_no_statement hs).1] at h)
  | some s =>
    have hex := e.interpreter.execution s
    rw [step_state_of_statement? hs] at h
    dsimp only at h
    generalize e.interpreter.execute s = o at h hex
    cases hex with
    | missing hop hno => exact .inl h
    | @stored value next hgives hpos hassign =>
      have hfind : (next.stamp s.name s.line).find? name = some v := h
      rw [Memory.find?_stamp_of_assign hassign] at hfind
      split at hfind
      · next hname =>
        obtain rfl := Option.some.inj hfind
        exact .inr ⟨line_of_statement? hs, hpos, s, hs, hname, hgives⟩
      · exact .inl hfind
    | printed hop hno hcurrent => exact .inl h
    | removed hop hno hcurrent =>
      have hfind : (e.interpreter.memory.remove s.name).find? name = some v := h
      rw [Memory.find?_remove, Option.ite_none_left_eq_some] at hfind
      exact .inl hfind.2
    | failed hfault => exact .inl h

/-- The variable was stored in the step from `past`, and so many steps later it is still there. -/
structure Origin (past : Engine) (count : Nat) (e : Engine) (name : String) (v : Variable) :
    Prop where
  stores : past.Stores name v
  leads : past.trail (count + 1) = e
  kept : ∀ j ≤ count, (past.trail (j + 1)).interpreter.memory.find? name = some v

/-- Every variable of a reachable engine has an origin. -/
theorem Reachable.exists_origin (h : Reachable limit e)
    (hv : e.interpreter.memory.find? name = some v) :
    ∃ past count, Reachable limit past ∧ Origin past count e name v := by
  have hempty : Memory.empty.find? name ≠ some v := by simp
  induction h with
  | initial => exact absurd hv hempty
  | load source h ih => exact absurd hv hempty
  | reset h ih => exact absurd hv hempty
  | @step e h ih =>
    rcases kept_or_stores hv with hkept | hstores
    · obtain ⟨past, count, hpast, horigin⟩ := ih hkept
      have hleads : past.trail (count + 1 + 1) = e.step.state := by
        rw [trail_succ, horigin.leads]
      refine ⟨past, count + 1, hpast, horigin.stores, hleads, ?_⟩
      intro j hj
      rcases Nat.le_succ_iff.1 hj with hle | rfl
      · exact horigin.kept j hle
      · rw [hleads, hv]
    · have hleads : e.trail (0 + 1) = e.step.state := rfl
      refine ⟨e, 0, h, hstores, hleads, ?_⟩
      intro j hj
      rw [Nat.le_zero.1 hj, hleads, hv]

/-- The program explains the variable, and the step that stored it was made on its line. -/
def Explained (limit : Nat) (e : Engine) (name : String) (v : Variable) : Prop :=
  ∃ p, e.program? = some p ∧ p.Explains name v ∧
    ∃ past count, past.program? = some p ∧ past.cursor = v.line ∧ Reachable limit past ∧
      Origin past count e name v

/-- Every variable of a reachable engine is explained. -/
theorem Reachable.explained (h : Reachable limit e)
    (hv : e.interpreter.memory.find? name = some v) : e.Explained limit name v := by
  obtain ⟨past, count, hpast, horigin⟩ := h.exists_origin hv
  obtain ⟨s, hs, -⟩ := horigin.stores.gives
  obtain ⟨p, hp, -⟩ := exists_program_of_statement? hs
  have hprogram : e.program? = some p := by rw [← horigin.leads, trail_program?, hp]
  exact ⟨p, hprogram, horigin.stores.explains hp, past, count, hp, horigin.stores.line.symm, hpast,
    horigin⟩

end Engine

namespace Session

variable {limit : Nat} {s : Session}

/-- Listing the memory shows all variables in their order. -/
theorem outputs_printMemory (ha : s.awaitingSource = false) :
    outputs (s.execute "print mem").events =
      s.engine.interpreter.memory.toList.map fun entry =>
        s!"{entry.1} {entry.2.value.toInt} {entry.2.line}" := by
  have hparse : Command.parse "print mem" = .ok (some .printMemory) := rfl
  rw [execute_of_parse ha hparse, outputs_settle, ← List.filterMap_eq_map]
  exact List.filterMap_map

/-- **Memory is explained by the source.** In every state that a session comes to, in the course of
a command or between two of them, every variable has a positive value. The line it is stamped with
is a line of the program that changes this variable, and if it is a `set`, then the value is its
operand. It was a step on this line that stored the variable, and since then the variable has stayed
the same. A listing shows these lines. -/
theorem Reachable.memory_is_explained (h : Reachable limit s) :
    (∀ n name v, (s.engine.steps n).state.interpreter.memory.find? name = some v →
        (s.engine.steps n).state.Explained limit name v) ∧
      (s.awaitingSource = false →
        (outputs (s.execute "print mem").events =
          s.engine.interpreter.memory.toList.map fun entry =>
            s!"{entry.1} {entry.2.value.toInt} {entry.2.line}") ∧
        ∀ entry ∈ s.engine.interpreter.memory.toList,
          s.engine.Explained limit entry.1 entry.2) := by
  refine ⟨fun n name v hv => (h.engine.steps n).explained hv,
    fun ha => ⟨outputs_printMemory ha, ?_⟩⟩
  intro entry hentry
  exact h.engine.explained (Memory.find?_of_mem_toList hentry)

/-- A variable is set, and a function takes something off it before the run stops. -/
def pausedBehindCall : Session :=
  (((((initial 4).load "set a 5\ncall f\nprint a\ndef f\n    sub a 2").state.execute
    "add break 2").state.execute "run").state)

/-- The listing shows the line in the function. -/
theorem pausedBehindCall_explained :
    Reachable 4 pausedBehindCall ∧ pausedBehindCall.engine.cursor = 2 ∧
      outputs (pausedBehindCall.execute "print mem").events = ["a 3 4"] ∧
        pausedBehindCall.engine.Explained 4 "a" ⟨3, 4⟩ := by
  have h : Reachable 4 pausedBehindCall := .execute _ (.execute _ (.load _ .initial))
  obtain ⟨hexplained, hlisted⟩ := h.memory_is_explained
  refine ⟨h, by decide +kernel, (hlisted (by decide +kernel)).1.trans (by decide +kernel), ?_⟩
  exact hexplained 0 "a" ⟨3, 4⟩ (by decide +kernel)

end Session

end LineDebugger
