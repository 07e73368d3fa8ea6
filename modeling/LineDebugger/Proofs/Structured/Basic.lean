import LineDebugger.Interpreter
import LineDebugger.Proofs.Engine.Steps

/-!
# Programs as nested blocks

The engine is flat: a cursor that jumps, a stack, and returns that are noticed only because a line
is no body line. What a program *means* is easier to say with blocks. The block of a header is the
stretch of body lines behind it; a call carries out the block of the function and then goes on
behind the call; and outside of calls a definition is passed over together with its block.

`Structured.exec` says just that, by recursion over lines and, for a call, over the calls that may
still nest. It has no cursor and no stack. It does not ask where an activation ends either: the
lines it is given are the lines it carries out.

## A definition inside a block

A body line may be a definition too. A block that comes to one is over: nothing is left of the
block behind it that the same stretch of body lines would not belong to.

## Main definitions

* `Report` — memory, output and ending of a piece of a program
* `Structured.exec` — carrying out some lines at some depth of calls
* `Structured.run` — carrying out a program from its text
-/

namespace LineDebugger

/-! ### Reports -/

/-- What carrying out some lines came to. -/
structure Report where
  /-- The variables afterwards. -/
  memory : Memory
  /-- The lines of output, in order. -/
  output : List String
  ending : Ending

namespace Report

/-- All was carried out and nothing was put out. -/
def finished (memory : Memory) : Report := ⟨memory, [], .finished⟩

/-- An error before anything happened. -/
def failed (memory : Memory) (error : ProgramError) : Report := ⟨memory, [], .failed error⟩

/-- Goes on from the memory, unless the report ends the execution. -/
def andThen (r : Report) (next : Memory → Report) : Report :=
  match r.ending with
  | .finished => { next r.memory with output := r.output ++ (next r.memory).output }
  | _ => r

/-- The report of an interpreter that had nothing missing before. -/
def ofOutcome (o : Outcome Interpreter ProgramError) : Report where
  memory := o.state.memory
  output := outputs o.events
  ending :=
    match o.error? with
    | some error => .failed error
    | none => if o.state.succeeded then .finished else .missingVariable

@[simp] theorem finished_andThen (memory : Memory) (next : Memory → Report) :
    (finished memory).andThen next = next memory := rfl

@[simp] theorem failed_andThen (memory : Memory) (error : ProgramError) (next : Memory → Report) :
    (failed memory error).andThen next = failed memory error := rfl

theorem andThen_finished (r : Report) : r.andThen finished = r := by
  obtain ⟨memory, output, ending⟩ := r
  cases ending <;> simp [andThen, finished]

theorem andThen_assoc (r : Report) (f g : Memory → Report) :
    (r.andThen f).andThen g = r.andThen fun memory => (f memory).andThen g := by
  obtain ⟨memory, output, ending⟩ := r
  cases ending with
  | missingVariable => rfl
  | failed error => rfl
  | finished => cases h : (f memory).ending <;> simp [andThen, h]

/-- Only a report that does not end the execution is followed by anything. -/
theorem andThen_congr {r : Report} {f g : Memory → Report}
    (h : r.ending = .finished → f r.memory = g r.memory) : r.andThen f = r.andThen g := by
  cases hr : r.ending with
  | finished => simp only [andThen, hr, h hr]
  | missingVariable => simp only [andThen, hr]
  | failed error => simp only [andThen, hr]

theorem ofOutcome_finished {o : Outcome Interpreter ProgramError}
    (h : (ofOutcome o).ending = .finished) : o.error? = none ∧ o.state.succeeded := by
  simp only [ofOutcome] at h
  cases herr : o.error? with
  | some error => simp [herr] at h
  | none => exact ⟨rfl, by simpa [herr] using h⟩

end Report

namespace Structured

/-! ### Blocks and definitions -/

/-- The lines of a program with their indices. -/
abbrev Numbered := List (String × Nat)

/-- Does the line read as a definition of the function? -/
def defines (name : String) (line : String × Nat) : Bool :=
  match Line.parse line.1 line.2 with
  | .ok (.definition other) => other == name
  | _ => false

/-- The index of the last line that defines the function. -/
def lastDefinition? (lines : List String) (name : String) : Option Nat :=
  (lines.zipIdx.filter (defines name)).getLast?.map Prod.snd

/-- Is it a body line? -/
def isBody (line : String × Nat) : Bool := isBodyLine line.1

/-- The block of the header with this index: the body lines that follow it without a gap. -/
def block (lines : List String) (header : Nat) : Numbered :=
  (lines.zipIdx.drop (header + 1)).takeWhile isBody

/-! ### Carrying out lines -/

/-- Carries out a statement. -/
def execStatement (s : Statement) (memory : Memory) : Report :=
  .ofOutcome ((Interpreter.mk memory true).execute s)

/-- Carries out the given lines in order at some depth of calls: depth zero is outside of calls,
and there a definition is passed over with its block. -/
def exec (lines : List String) (limit depth : Nat) : Numbered → Memory → Report
  | [], memory => .finished memory
  | (text, index) :: rest, memory =>
    match Line.parse text index with
    | .error error => .failed memory error
    | .ok (.definition _) =>
      if depth = 0 then exec lines limit depth (rest.dropWhile isBody) memory
      else .finished memory
    | .ok (.statement s) =>
      (execStatement s memory).andThen fun memory => exec lines limit depth rest memory
    | .ok (.call name) =>
      match lastDefinition? lines name with
      | none => .failed memory (.unknownFunction name index)
      | some header =>
        if limit ≤ depth then .failed memory (.depthExceeded limit index)
        else
          (exec lines limit (depth + 1) (block lines header) memory).andThen fun memory =>
            exec lines limit depth rest memory
termination_by rest => (limit - depth, rest.length)
decreasing_by
  · exact Prod.Lex.right _ (Nat.lt_succ_of_le (List.dropWhile_sublist _).length_le)
  · exact Prod.Lex.right _ (Nat.lt_succ_self _)
  · exact Prod.Lex.left _ _ (by omega)
  · exact Prod.Lex.right _ (Nat.lt_succ_self _)

/-- Carries out the program that a text describes. -/
def run (source : String) (limit : Nat) : Report :=
  exec (sourceLines source) limit 0 (sourceLines source).zipIdx .empty

end Structured

end LineDebugger
