import LineDebugger.Proofs.Engine.Step
import Mathlib.Order.Bounds.Basic

/-!
# Calls lead to headers

What a definition is, is decided in two places. The function table is made when a program is loaded,
by going over all lines once and looking for the word `def` with a name behind it. A line is read
much later, when the cursor is on it, by its words and in full. An engine takes for granted that the
two agree: it sends the cursor where the table says, and then passes over that line as a header,
without reading it, because the table says so.

They do agree, whatever the lines hold, and so the table can be said without looking at how it was
made. For each name it has the last line that reads as a definition of this name, and nothing if no
line reads so. What a call does then follows, in whatever state the engine is.

## Main definitions

* `FunctionTable.headers` — the lines that read as a definition of a name
* `Engine.Calls` — the next step carries out a call of a function

## Main results

* `FunctionTable.getElem?_ofLines_eq_some_iff_isGreatest`,
  `FunctionTable.getElem?_ofLines_eq_none_iff` — the table holds the last of them
* `Engine.enters_iff_calls` — the steps that enter a function are those that carry out a call
* `Engine.calls_lead_to_headers` — and where they lead
-/

namespace LineDebugger

namespace FunctionTable

variable {lines : List String} {name : String} {index header : Nat}

/-- The lines that read as a definition of the name. -/
def headers (lines : List String) (name : String) : Set Nat :=
  {index | ∃ text, lines[index]? = some text ∧ Line.parse text index = .ok (.definition name)}

theorem mem_headers_iff :
    index ∈ headers lines name ↔
      ∃ text, lines[index]? = some text ∧ definedName? text = some name :=
  exists_congr fun _ => and_congr_right fun _ => definedName?_eq_some_iff.symm

/-- The table leads to the last header of a name. -/
theorem getElem?_ofLines_eq_some_iff_isGreatest :
    (ofLines lines)[name]? = some header ↔ IsGreatest (headers lines name) header := by
  rw [Program.getElem?_ofLines_eq_some_iff, IsGreatest, mem_headers_iff]
  refine and_congr_right fun _ => ⟨fun hlast => ?_, fun hlast => ?_⟩
  · intro index hindex
    obtain ⟨text, hl, hd⟩ := mem_headers_iff.1 hindex
    by_contra hlt
    exact hlast index text (Nat.lt_of_not_le hlt) hl hd
  · intro later text hlt hl hd
    exact Nat.not_le.2 hlt (hlast (mem_headers_iff.2 ⟨text, hl, hd⟩))

/-- A name that is not in the table has no header. -/
theorem getElem?_ofLines_eq_none_iff :
    (ofLines lines)[name]? = none ↔ headers lines name = ∅ := by
  have hnone : (ofLines lines)[name]? = none ↔ ∀ text ∈ lines, definedName? text ≠ some name := by
    induction lines using List.reverseRecOn with
    | nil => simp [ofLines]
    | append_singleton lines last ih =>
      rw [Program.ofLines_append_singleton, getElem?_enter]
      by_cases hlast : definedName? last = some name
      · simp [hlast]
      · simp [hlast, ih, or_imp, forall_and]
  rw [hnone, Set.eq_empty_iff_forall_notMem]
  constructor
  · intro hno index hindex
    obtain ⟨text, hl, hd⟩ := mem_headers_iff.1 hindex
    exact hno text (List.mem_of_getElem? hl) hd
  · intro hempty text htext hd
    obtain ⟨index, hl⟩ := List.getElem?_of_mem htext
    exact hempty index (mem_headers_iff.2 ⟨text, hl, hd⟩)

end FunctionTable

open FunctionTable

namespace Engine

variable {e : Engine} {p : Program} {name : String}

/-- The next step carries out a call of this function: the line that it reads says so, and it
succeeds. -/
structure Calls (e : Engine) (p : Program) (name : String) : Prop where
  reads : p.Reads e.stack e.cursor
  line : p.read e.cursor = .ok (.call name)
  succeeds : e.step.error? = none

/-- A call that is carried out leads to the line that the table has for the function. -/
theorem Calls.step_eq (hp : e.program? = some p) (h : e.Calls p name) :
    ∃ header, p.functionLine? name = some header ∧
      e.step = .done { e with stack := ⟨name, e.cursor⟩ :: e.stack, cursor := header }
        [.called ⟨name, e.cursor⟩ header] := by
  have hstep : e.step = e.enter p name := by rw [step_of_reads hp h.reads, stepLine_of_call h.line]
  have hok := h.succeeds
  rw [hstep] at hok ⊢
  cases hd : p.functionLine? name with
  | none =>
    rw [enter_of_unknown hd] at hok
    cases hok
  | some header =>
    rcases Nat.lt_or_ge e.stack.length e.depthLimit with hlt | hge
    · exact ⟨header, rfl, enter_of_lt_limit hd hlt⟩
    · rw [enter_of_limit_le hd hge] at hok
      cases hok

/-- The steps that enter a function are those that carry out a call. -/
theorem enters_iff_calls (hp : e.program? = some p) : e.Enters ↔ ∃ name, e.Calls p name := by
  constructor
  · intro h
    obtain ⟨name, header, hr, hl, -⟩ := h.call hp
    exact ⟨name, hr, hl, h.1⟩
  · rintro ⟨name, h⟩
    obtain ⟨header, -, hstep⟩ := h.step_eq hp
    refine ⟨h.succeeds, ?_⟩
    rw [hstep]
    exact Nat.lt_succ_self _

/-- **Calls lead to headers.** For any lines, the function table has for each name the last line
that reads as a definition of this name, and nothing if there is no such line. So a step that enters
a function, in whatever state it is made, carries out a call, and leads to a line that reads as a
definition of the function that is called, with no later definition of it in the program. The next
step goes past this line and does nothing else. -/
theorem calls_lead_to_headers :
    (∀ lines name,
      (∀ header, (FunctionTable.ofLines lines)[name]? = some header ↔
          IsGreatest (headers lines name) header) ∧
        ((FunctionTable.ofLines lines)[name]? = none ↔ headers lines name = ∅)) ∧
    ∀ (e : Engine) (p : Program), e.program? = some p →
      (e.Enters ↔ ∃ name, e.Calls p name) ∧
        ∀ name, e.Calls p name →
          let entered := e.step.state
          entered.stack = ⟨name, e.cursor⟩ :: e.stack ∧
            IsGreatest (headers p.lines.toList name) entered.cursor ∧
              entered.step = .quiet { entered with cursor := entered.cursor + 1 } := by
  refine ⟨fun lines name => ⟨fun header => getElem?_ofLines_eq_some_iff_isGreatest,
    getElem?_ofLines_eq_none_iff⟩, fun e p hp => ⟨enters_iff_calls hp, ?_⟩⟩
  intro name h entered
  obtain ⟨header, hd, hstep⟩ := h.step_eq hp
  have hentered : entered =
      { e with stack := ⟨name, e.cursor⟩ :: e.stack, cursor := header } :=
    congrArg Outcome.state hstep
  rw [hentered]
  refine ⟨rfl, ?_, step_of_header hp rfl hd⟩
  rw [← getElem?_ofLines_eq_some_iff_isGreatest, ← p.functions_eq]
  exact hd

/-- A function is defined twice, the second time with a word too many and on a line that is
indented, though not far enough for a body. -/
def definedTwice : Engine :=
  ((Engine.initial 4).load "call f\ndef f\n    set a 1\n def f again\n    set a 2").state

/-- The call leads to the second definition. -/
theorem definedTwice_enters_last :
    ∃ p, definedTwice.program? = some p ∧ definedTwice.Calls p "f" ∧
      definedTwice.step.state.cursor = 3 ∧ IsGreatest (headers p.lines.toList "f") 3 ∧
        definedTwice.step.state.step.state.cursor = 4 := by
  have hcalls : definedTwice.Calls
      (.ofSource "call f\ndef f\n    set a 1\n def f again\n    set a 2") "f" :=
    ⟨show 0 < Program.size _ by decide +kernel, rfl, by decide +kernel⟩
  have hcursor : definedTwice.step.state.cursor = 3 := by decide +kernel
  obtain ⟨-, hgreatest, hpast⟩ := (calls_lead_to_headers.2 definedTwice _ rfl).2 "f" hcalls
  rw [hcursor] at hgreatest hpast
  exact ⟨_, rfl, hcalls, hcursor, hgreatest, congrArg (·.state.cursor) hpast⟩

end Engine

end LineDebugger
