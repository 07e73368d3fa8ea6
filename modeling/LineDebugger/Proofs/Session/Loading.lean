import LineDebugger.Proofs.Session.Inputs

/-!
# Loading leaves no residue

A program can be loaded at any time: in the middle of a call, after a failure, with variables in
memory and with another program in place. It comes from outside, or it is typed after `set code`;
then it is the next line with anything on it. In either case the engine afterwards is the one that
has just loaded the program and never had another one, with no calls, no variables and the flag up,
and with the function table of the new lines alone. Of the old engine only its limit on calls is
asked.

So two sessions with one limit and the same breakpoints cannot be told apart any more once they
have loaded the same text, each in its own way, if both await a program or none of them does. Only
a text from outside can leave a program awaited; one that is typed is what was awaited.

## Main definitions

* `Engine.loaded` — an engine that has just loaded a program
* `Session.Loads` — the inputs make the session load this text, and end with it

## Main results

* `Session.Loads.afterInputs_eq` — what the session is then
* `Session.loading_leaves_no_residue` — two sessions that load the same text
-/

namespace LineDebugger

/-- An engine that has just loaded a program. -/
def Engine.loaded (limit : Nat) (source : String) : Engine :=
  { program? := some (.ofSource source)
    stack := []
    cursor := 0
    interpreter := .initial
    depthLimit := limit }

namespace Session

variable {s t : Session} {text : String} {inputs : List Input}

/-- The inputs make the session load this text, and end with it. It comes from outside; or it is
typed, as the first line with anything on it while a program is awaited, which one is after
`set code`. -/
inductive Loads (s : Session) (text : String) : List Input → Prop
  | outside : Loads s text [.source text]
  | awaited (blanks : Nat) (ha : s.awaitingSource) (ht : text ≠ "") :
      Loads s text (List.replicate blanks (.line "") ++ [.line text])
  | typed (blanks : Nat) (ha : s.awaitingSource = false) (ht : text ≠ "") :
      Loads s text (.line "set code" :: (List.replicate blanks (.line "") ++ [.line text]))

/-- After `set code` a program is awaited. The engine may have been started over. -/
theorem execute_setCode (ha : s.awaitingSource = false) :
    ∃ e, e.depthLimit = s.engine.depthLimit ∧
      (s.execute "set code").state = ⟨e, s.breakpoints, true⟩ := by
  rw [execute_of_parse ha rfl, settle]
  split
  · exact ⟨s.engine.restarted, rfl, rfl⟩
  · exact ⟨s.engine, rfl, rfl⟩

/-- A line is loaded if a program is awaited, unless there is nothing on it. -/
theorem execute_of_awaiting (ha : s.awaitingSource) (ht : text ≠ "") :
    s.execute text = ({ s with awaitingSource := false }.load text).mapError .program := by
  rw [execute, if_neg ht, if_pos ha]

/-- Empty lines do nothing, and then a program is loaded if one is awaited. -/
theorem afterInputs_awaited (ha : s.awaitingSource) (ht : text ≠ "") (blanks : Nat) :
    s.afterInputs (List.replicate blanks (.line "") ++ [.line text]) =
      ⟨.loaded s.engine.depthLimit text, s.breakpoints, false⟩ := by
  induction blanks with
  | zero =>
    show (s.execute text).state = _
    rw [execute_of_awaiting ha ht]
    rfl
  | succ blanks ih => exact ih

/-- A session that has loaded a text keeps its breakpoints and its limit. Whether a program is
awaited is as before if the text came from outside. -/
theorem Loads.afterInputs_eq (h : s.Loads text inputs) :
    ∃ awaiting, s.afterInputs inputs =
        ⟨.loaded s.engine.depthLimit text, s.breakpoints, awaiting⟩ ∧
      (awaiting ↔ s.awaitingSource ∧ inputs = [.source text]) := by
  cases h with
  | outside => exact ⟨s.awaitingSource, rfl, by simp⟩
  | awaited blanks ha ht =>
    refine ⟨false, afterInputs_awaited ha ht blanks, iff_of_false Bool.false_ne_true ?_⟩
    rintro ⟨-, houtside⟩
    -- the last input is a line
    have hlast := congrArg List.getLast? houtside
    simp at hlast
  | typed blanks ha ht =>
    obtain ⟨e, hlimit, he⟩ := execute_setCode ha
    refine ⟨false, ?_, by simp⟩
    show (s.execute "set code").state.afterInputs _ = _
    rw [he, afterInputs_awaited rfl ht, hlimit]

/-- **Loading leaves no residue.** Take two sessions with the same limit on calls and the same
breakpoints, whatever else they are, and let each of them load the same text, from outside or as
the line after `set code`. Then the engine of both has just loaded this text and nothing else. If
both await a program or none of them does, which is the case if both texts were typed, all further
inputs have the same answers: the same events, errors and sessions. -/
theorem loading_leaves_no_residue {inputs' : List Input}
    (hs : s.Loads text inputs) (ht : t.Loads text inputs')
    (hlimit : s.engine.depthLimit = t.engine.depthLimit)
    (hbreakpoints : ∀ line, s.breakpoints.contains line = t.breakpoints.contains line) :
    (s.afterInputs inputs).engine = .loaded s.engine.depthLimit text ∧
      (t.afterInputs inputs').engine = .loaded s.engine.depthLimit text ∧
      (inputs ≠ [.source text] → inputs' ≠ [.source text] →
        (s.afterInputs inputs).awaitingSource = (t.afterInputs inputs').awaitingSource) ∧
      ((s.afterInputs inputs).awaitingSource = (t.afterInputs inputs').awaitingSource →
        ∀ further, (s.afterInputs inputs).answers further =
          (t.afterInputs inputs').answers further) := by
  obtain ⟨awaiting, hsafter, hsawaiting⟩ := hs.afterInputs_eq
  obtain ⟨awaiting', htafter, htawaiting⟩ := ht.afterInputs_eq
  have hsame : s.breakpoints = t.breakpoints := Breakpoints.ext hbreakpoints
  rw [hsafter, htafter, ← hlimit, hsame]
  refine ⟨rfl, rfl, ?_, ?_⟩
  · intro hs' ht'
    rw [Bool.eq_iff_iff, hsawaiting, htawaiting]
    simp [hs', ht']
  · rintro rfl further
    rfl

/-- A call is under way, and a variable is in memory. -/
def pausedWithVariable : Session :=
  ((initial 5).load "def f\n    set a 1\n    print a\ncall f").state.after
    ["add break 9", "step", "step", "step", "step"]

/-- The last program failed, and another one is awaited. -/
def failedAndAwaiting : Session :=
  ((initial 5).load "set b 1\ncall g").state.after
    ["step", "step", "add break 2", "add break 9", "remove break 2", "set code"]

/-- Both load a program that would tell if the variable were still there. -/
theorem pausedWithVariable_forgets :
    let inputs : List Input := [.line "set code", .line "", .line "print a"]
    let inputs' : List Input := [.line "print a"]
    pausedWithVariable.engine.stack = [⟨"f", 3⟩] ∧
      pausedWithVariable.engine.interpreter.memory.names = ["a"] ∧
      pausedWithVariable.Loads "print a" inputs ∧ failedAndAwaiting.Loads "print a" inputs' ∧
      (pausedWithVariable.afterInputs inputs).engine = .loaded 5 "print a" ∧
      ∀ further, (pausedWithVariable.afterInputs inputs).answers further =
        (failedAndAwaiting.afterInputs inputs').answers further := by
  intro inputs inputs'
  obtain ⟨⟨hawaiting, hstack, hnames⟩, hlimit, hbreakpoints⟩ :
      (pausedWithVariable.awaitingSource = false ∧
        pausedWithVariable.engine.stack = [⟨"f", 3⟩] ∧
        pausedWithVariable.engine.interpreter.memory.names = ["a"]) ∧
      pausedWithVariable.engine.depthLimit = 5 ∧ pausedWithVariable.breakpoints.toList = [9] := by
    decide +kernel
  obtain ⟨hawaiting', hlimit', hbreakpoints'⟩ :
      failedAndAwaiting.awaitingSource ∧ failedAndAwaiting.engine.depthLimit = 5 ∧
        failedAndAwaiting.breakpoints.toList = [9] := by
    decide +kernel
  have hs : pausedWithVariable.Loads "print a" inputs := .typed 1 hawaiting (by decide)
  have ht : failedAndAwaiting.Loads "print a" inputs' := .awaited 0 hawaiting' (by decide)
  obtain ⟨hengine, -, hsame, hanswers⟩ :=
    loading_leaves_no_residue hs ht (hlimit.trans hlimit'.symm) fun line => by
      rw [← Breakpoints.contains_toList, ← Breakpoints.contains_toList, hbreakpoints,
        hbreakpoints']
  refine ⟨hstack, hnames, hs, ht, hlimit ▸ hengine, ?_⟩
  exact hanswers (hsame (by simp [inputs]) (by simp [inputs']))

end Session

end LineDebugger
