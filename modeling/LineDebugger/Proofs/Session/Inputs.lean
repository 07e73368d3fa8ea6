import LineDebugger.Proofs.Session.History

/-!
# Inputs and answers

A session takes lines of text, and between them a program can be loaded from outside. Both are
*inputs*, and what comes of an input is its *answer*: the session it leaves behind, the events it
caused and the error it ended with. Two histories are compared by the answers to their inputs, which
hold all that can be seen of a session from outside.

## Main definitions

* `Session.Input` — a line of text, or a program
* `Session.take`, `Session.answers` — the answer to an input, and to one after another
* `Session.afterInputs` — the session after some inputs
-/

namespace LineDebugger

namespace Session

/-- What a session takes. -/
inductive Input
  /-- A line of text. -/
  | line (text : String)
  /-- A program that is loaded from outside. -/
  | source (text : String)

/-- The answer to an input. -/
def take (s : Session) : Input → Outcome Session CommandError
  | .line text => s.execute text
  | .source text => (s.load text).mapError .program

/-- The answers to some inputs, each taken after the one before. -/
def answers (s : Session) : List Input → List (Outcome Session CommandError)
  | [] => []
  | input :: inputs => s.take input :: (s.take input).state.answers inputs

/-- The session after some inputs. -/
def afterInputs (s : Session) (inputs : List Input) : Session :=
  inputs.foldl (fun s input => (s.take input).state) s

variable {limit : Nat} {s : Session}

@[simp] theorem answers_nil (s : Session) : s.answers [] = [] := rfl

@[simp] theorem answers_cons (s : Session) (input : Input) (inputs : List Input) :
    s.answers (input :: inputs) = s.take input :: (s.take input).state.answers inputs := rfl

@[simp] theorem length_answers (s : Session) (inputs : List Input) :
    (s.answers inputs).length = inputs.length := by
  induction inputs generalizing s with
  | nil => rfl
  | cons input inputs ih => rw [answers_cons, List.length_cons, ih, List.length_cons]

@[simp] theorem afterInputs_nil (s : Session) : s.afterInputs [] = s := rfl

@[simp] theorem afterInputs_cons (s : Session) (input : Input) (inputs : List Input) :
    s.afterInputs (input :: inputs) = (s.take input).state.afterInputs inputs := rfl

/-- Every input leads on to a session that a history leads to. -/
theorem Reachable.take (h : Reachable limit s) (input : Input) :
    Reachable limit (s.take input).state := by
  cases input with
  | line text => exact .execute text h
  | source text => exact .load text h

end Session

end LineDebugger
