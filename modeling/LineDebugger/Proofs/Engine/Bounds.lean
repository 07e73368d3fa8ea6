import LineDebugger.Proofs.Engine.Failure
import LineDebugger.Proofs.Engine.Reachable

/-!
# The engine works on what exists

A step takes for granted that there is a line under the cursor when it carries one out, that there
is a call when it returns from one, and that the place it goes on to is one of the program. Nobody
would notice if it were wrong about that. A line that does not exist reads as an empty one, and
would be reported as a malformed statement; to return from no call would be to do nothing; and a
place is a number, to which one can always be added.

`Engine.checkedStep` is the same step made with more care. It looks for each of these things before
it uses it, and names what it lacks if that is not there. Two of the three are always there, in
whatever state the engine is: a line is carried out, and a call returned from, only after the step
has seen that there is one, though it saw it elsewhere and in other words. With the third it is
different. The place to return to was fixed when the call was made, and the step that returns there
looks at nothing that would tell whether it belongs to the program. That it does follows from the
history of the engine alone.

So in every state that loads, resets and steps lead to, the step with more care is the step.

## Main definitions

* `Engine.Lack` — what a step can need and not find
* `Engine.checkedStep` — a step that looks for everything it needs

## Main results

* `Engine.checkedStep_cases` — only the place to return to can be lacking
* `Engine.line_lt_size_of_error`, `Engine.getElem?_of_malformed` — errors are about existing lines
* `Engine.Reachable.lacks_nothing` — and with a reachable engine nothing is lacking
-/

namespace LineDebugger

/-- What a step can need and not find. -/
inductive Engine.Lack
  /-- A line to carry out. -/
  | line (index : Nat)
  /-- A call to return from. -/
  | call
  /-- A place to go on from. A program has one for each of its lines, and one behind them. -/
  | place (index : Nat)

open Engine (Lack)

namespace Program

variable {p : Program} {index : Nat} {text : String}

/-! ### Looking things up -/

/-- The text of a line, which has to exist. -/
def checkedText (p : Program) (index : Nat) : Except Lack String :=
  match p.lines[index]? with
  | some text => .ok text
  | none => .error (.line index)

/-- The next place, which has to be one of the program. -/
def checkedSucc (p : Program) (index : Nat) : Except Lack Nat :=
  if index + 1 ≤ p.size then .ok (index + 1) else .error (.place (index + 1))

theorem checkedText_of_lt (h : index < p.size) :
    ∃ text, p.checkedText index = .ok text ∧ p.read index = Line.parse text index := by
  have hl : p.lines[index]? = some p.lines[index] := Array.getElem?_eq_getElem h
  exact ⟨_, by rw [checkedText, hl], read_of_getElem? hl⟩

theorem checkedSucc_of_lt (h : index < p.size) : p.checkedSucc index = .ok (index + 1) :=
  if_pos h

theorem checkedSucc_of_le (h : p.size ≤ index) :
    p.checkedSucc index = .error (.place (index + 1)) :=
  if_neg (Nat.not_le.2 (Nat.lt_succ_of_le h))

theorem lt_of_checkedSucc {next : Nat} (h : p.checkedSucc index = .ok next) :
    p.size - next < p.size - index := by
  rw [checkedSucc] at h
  split at h
  · have hnext := Except.ok.inj h
    omega
  · cases h

/-- The end of a block, gone to line by line. -/
def checkedBlockEnd (p : Program) (index : Nat) : Except Lack Nat :=
  if p.isBody index then
    match _hnext : p.checkedSucc index with
    | .error lack => .error lack
    | .ok next => p.checkedBlockEnd next
  else .ok index
termination_by p.size - index
decreasing_by exact lt_of_checkedSucc _hnext

/-- A block is never followed past the end of the program. -/
theorem checkedBlockEnd_eq (p : Program) (index : Nat) :
    p.checkedBlockEnd index = .ok (p.blockEnd index) := by
  fun_induction checkedBlockEnd p index with
  | case1 index hbody lack hnext =>
    rw [checkedSucc_of_lt (lt_size_of_isBody hbody)] at hnext
    cases hnext
  | case2 index hbody next hnext ih =>
    rw [checkedSucc_of_lt (lt_size_of_isBody hbody)] at hnext
    obtain rfl := Except.ok.inj hnext
    rw [ih, blockEnd_of_isBody hbody]
  | case3 index hbody => rw [blockEnd_of_not_isBody hbody]

/-- A program has no empty lines. -/
theorem ne_empty_of_getElem? {source : String} (h : (ofSource source).lines[index]? = some text) :
    text ≠ "" := by
  rw [← Array.getElem?_toList] at h
  have hmem : text ∈ sourceLines source := List.mem_of_getElem? h
  exact Text.ne_empty_of_mem_runs hmem

end Program

namespace Engine

variable {limit : Nat} {e : Engine} {p : Program} {frame : Frame} {outer : List Frame}
  {error : ProgramError}

/-! ### A step with more care -/

/-- Does what the line under the cursor asks for, if there is one. -/
def checkedStepLine (e : Engine) (p : Program) : Except Lack (Outcome Engine ProgramError) := do
  let text ← p.checkedText e.cursor
  match Line.parse text e.cursor with
  | .error error => return .fail e error
  | .ok (.definition _) =>
    let first ← p.checkedSucc e.cursor
    let cursor ← p.checkedBlockEnd first
    return .quiet { e with cursor }
  | .ok (.call name) => return e.enter p name
  | .ok (.statement s) =>
    let cursor ← p.checkedSucc e.cursor
    return (e.interpreter.execute s).map fun interpreter => { e with cursor, interpreter }

/-- Returns from the last call, if there is one. -/
def checkedReturn (e : Engine) (p : Program) : Except Lack (Outcome Engine ProgramError) :=
  match e.stack with
  | [] => throw .call
  | frame :: outer => do
    let cursor ← p.checkedSucc frame.callLine
    return .done { e with stack := outer, cursor } [.returned frame]

/-- One step through a program that is not over, with a look at everything it needs. -/
def checkedStepIn (e : Engine) (p : Program) : Except Lack (Outcome Engine ProgramError) :=
  match e.stack.head? with
  | none => e.checkedStepLine p
  | some frame =>
    if p.functionLine? frame.function = some e.cursor then do
      let cursor ← p.checkedSucc e.cursor
      return .quiet { e with cursor }
    else if p.isBody e.cursor then e.checkedStepLine p
    else e.checkedReturn p

/-- One step, with a look at everything it needs. -/
def checkedStep (e : Engine) : Except Lack (Outcome Engine ProgramError) :=
  match e.program? with
  | none => return .quiet e
  | some p => if e.atEnd then return .quiet e else e.checkedStepIn p

theorem Lack.ok_bind {α β : Type} (a : α) (next : α → Except Lack β) :
    (Except.ok a >>= next) = next a := rfl

/-- A line that exists has all that is needed to carry it out. -/
theorem checkedStepLine_of_lt (h : e.cursor < p.size) :
    e.checkedStepLine p = .ok (e.stepLine p) := by
  obtain ⟨text, htext, hread⟩ := Program.checkedText_of_lt h
  rw [checkedStepLine, htext, Lack.ok_bind]
  cases hl : p.read e.cursor with
  | error error =>
    rw [stepLine_of_error hl]
    rw [hread] at hl
    simp only [hl]
    rfl
  | ok line =>
    cases line with
    | definition name =>
      rw [stepLine_of_definition hl]
      rw [hread] at hl
      simp only [hl, Program.checkedSucc_of_lt h, Program.checkedBlockEnd_eq, Lack.ok_bind]
      rfl
    | call name =>
      rw [stepLine_of_call hl]
      rw [hread] at hl
      simp only [hl]
      rfl
    | statement s =>
      rw [stepLine_of_statement hl]
      rw [hread] at hl
      simp only [hl, Program.checkedSucc_of_lt h, Lack.ok_bind]
      rfl

theorem checkedStep_eq_checkedStepIn (hp : e.program? = some p) (hend : e.atEnd = false) :
    e.checkedStep = e.checkedStepIn p := by
  rw [checkedStep, hp, hend]
  rfl

theorem checkedStep_of_idle (h : e.idle) : e.checkedStep = .ok e.step := by
  rw [checkedStep]
  cases hp : e.program? with
  | none =>
    rw [step_of_no_program hp]
    rfl
  | some p =>
    rw [idle_of_program? hp] at h
    rw [step_of_atEnd hp h, h]
    rfl

/-- A header is a line of the program, so there is a place behind it. -/
theorem checkedStep_of_header (hp : e.program? = some p) (hs : e.stack = frame :: outer)
    (hh : p.functionLine? frame.function = some e.cursor) : e.checkedStep = .ok e.step := by
  have hhead : e.stack.head? = some frame := congrArg List.head? hs
  rw [checkedStep_eq_checkedStepIn hp (atEnd_of_stack_ne_nil hp (by simp [hs])), checkedStepIn,
    hhead, step_of_header hp hs hh]
  simp only [if_pos hh, Program.checkedSucc_of_lt (Program.lt_size_of_functionLine? hh)]
  rfl

/-- A line that is read exists: at top level because the program is not over, and in a call because
it is a body line. -/
theorem checkedStep_of_reads (hp : e.program? = some p) (hr : p.Reads e.stack e.cursor) :
    e.checkedStep = .ok e.step := by
  rw [checkedStep_eq_checkedStepIn hp (atEnd_of_cursor_lt hp hr.lt_size), checkedStepIn,
    step_of_reads hp hr, ← checkedStepLine_of_lt hr.lt_size]
  cases hs : e.stack with
  | nil => rfl
  | cons frame outer =>
    rw [hs] at hr
    exact (if_neg hr.1).trans (if_pos hr.2)

/-- A return finds its call, and has to find the place behind the call line. -/
theorem checkedStep_of_leaves (hp : e.program? = some p) (hs : e.stack = frame :: outer)
    (hh : p.functionLine? frame.function ≠ some e.cursor) (hb : ¬p.isBody e.cursor) :
    e.checkedStep = (p.checkedSucc frame.callLine).map fun cursor =>
      .done { e with stack := outer, cursor } [.returned frame] := by
  have hhead : e.stack.head? = some frame := congrArg List.head? hs
  rw [checkedStep_eq_checkedStepIn hp (atEnd_of_stack_ne_nil hp (by simp [hs])), checkedStepIn,
    hhead]
  simp only [if_neg hh, if_neg hb]
  rw [checkedReturn, hs]
  rfl

/-- The place to return to is the only thing that a step can lack, whatever state it is made in. -/
theorem checkedStep_cases (e : Engine) :
    e.checkedStep = .ok e.step ∨ ∃ frame outer, e.stack = frame :: outer ∧
      e.size ≤ frame.callLine ∧ e.checkedStep = .error (.place frame.returnLine) := by
  cases hidle : e.idle with
  | true => exact .inl (checkedStep_of_idle hidle)
  | false =>
    obtain ⟨p, hp⟩ : ∃ p, e.program? = some p := by
      rw [idle, Bool.or_eq_false_iff] at hidle
      exact Option.isSome_iff_exists.1 (by simpa using hidle.1)
    rw [idle_of_program? hp] at hidle
    rcases step_cases hp hidle with ⟨frame, outer, hs, hh⟩ | hr | ⟨frame, outer, hs, hh, hb⟩
    · exact .inl (checkedStep_of_header hp hs hh)
    · exact .inl (checkedStep_of_reads hp hr)
    · rw [checkedStep_of_leaves hp hs hh hb, size_of_program? hp]
      rcases Nat.lt_or_ge frame.callLine p.size with hlt | hge
      · rw [Program.checkedSucc_of_lt hlt, step_of_leaves hp hs hh hb]
        exact .inl rfl
      · rw [Program.checkedSucc_of_le hge]
        exact .inr ⟨frame, outer, hs, hge, rfl⟩

/-- There is no line 7 to have made the call. The step would return to line 8 all the same. -/
example : (Engine.mk (some (.ofSource "print a")) [⟨"f", 7⟩] 1 .initial 4).checkedStep =
    .error (.place 8) := rfl

/-! ### Errors -/

/-- A step fails on a line of the program only. -/
theorem line_lt_size_of_error (h : e.step.error? = some error) : error.line < e.size := by
  obtain ⟨p, hp⟩ := exists_program_of_error h
  obtain ⟨hr, -⟩ := reads_of_step_error hp h
  have hline : error.line = e.cursor := by
    rcases step_of_failure h with ⟨-, hline, -⟩ | ⟨-, hline, -⟩ <;> exact hline
  rw [hline, size_of_program? hp]
  exact hr.lt_size

/-- An error about a line that cannot be read quotes this line of the program. -/
theorem getElem?_of_malformed {line : Nat} {text : String} {fault : Malformation}
    (hp : e.program? = some p) (h : e.step.error? = some (.malformed line text fault))
    (hfault : fault.ofReading) : p.lines[line]? = some text := by
  have hrefusal := (step_control_iff hp).1 ⟨h, hfault⟩
  cases hrefusal with
  | unreadable hr hl =>
    obtain ⟨_, hmalformed, -⟩ := Program.malformed_of_read hl
    obtain ⟨rfl, rfl, rfl⟩ := ProgramError.malformed.inj hmalformed
    have hexists : e.position.cursor < p.lines.size := hr.lt_size
    rw [Array.getElem?_eq_getElem hexists, Option.getD_some]

/-! ### Reachable engines -/

/-- The cursor of a reachable engine is a place of its program, and its calls were made by lines of
the program. -/
theorem Reachable.bounds (h : Reachable limit e) :
    e.cursor ≤ e.size ∧ ∀ frame ∈ e.stack, frame.callLine < e.size := by
  have hplaced := h.placed
  cases hp : e.program? with
  | none =>
    rw [Placed, hp] at hplaced
    rw [hplaced.1, hplaced.2]
    exact ⟨Nat.zero_le _, fun frame hf => absurd hf List.not_mem_nil⟩
  | some p =>
    obtain ⟨hchain, -, hcursor⟩ := (placed_iff hp).1 hplaced
    rw [size_of_program? hp]
    exact ⟨hcursor, fun frame hf => Program.lt_size_of_read (hchain.read_callLine hf)⟩

/-- **A reachable engine lacks nothing.** In every state that loads, resets and steps lead to, also
steps that fail, the cursor is at most the number of lines, and every call under way was made by a
line that exists. The next step finds everything it needs: the line, if it carries one out; the
call, if it returns from one; and a place behind every line it goes on from or returns to, so that
no number it counts up to is larger than the number of lines. If it fails, it fails on a line that
exists; and if that is because the line cannot be read, the line is quoted as it stands in the
program, where no line is empty. -/
theorem Reachable.lacks_nothing (h : Reachable limit e) :
    e.cursor ≤ e.size ∧ (∀ frame ∈ e.stack, frame.callLine < e.size) ∧
      e.checkedStep = .ok e.step ∧
        (∀ error, e.step.error? = some error → error.line < e.size) ∧
          ∀ line text fault, e.step.error? = some (.malformed line text fault) →
            fault.ofReading →
              text ≠ "" ∧ ∃ p, e.program? = some p ∧ p.lines[line]? = some text := by
  obtain ⟨hcursor, hcalls⟩ := h.bounds
  refine ⟨hcursor, hcalls, ?_, fun _ => line_lt_size_of_error, ?_⟩
  · rcases checkedStep_cases e with hok | ⟨frame, outer, hs, hge, -⟩
    · exact hok
    · have hlt := hcalls frame (hs ▸ List.mem_cons_self)
      exact absurd hlt (Nat.not_lt.2 hge)
  · intro line text fault herr hfault
    obtain ⟨p, hp⟩ := exists_program_of_error herr
    have hl := getElem?_of_malformed hp herr hfault
    obtain ⟨source, rfl⟩ := h.exists_source hp
    exact ⟨Program.ne_empty_of_getElem? hl, _, hp, hl⟩

/-- The last line of the program is the last line of a function too, and calls another one. -/
def callOnLastLine : Engine :=
  ((Engine.initial 4).load "def g\n    set a 1\ncall f\ndef f\n    call g").state

/-- After the inner call the cursor is behind all lines, and the outer call still has to return. -/
theorem callOnLastLine_lacks_nothing :
    let e := (callOnLastLine.steps 7).state
    Reachable 4 e ∧ e.cursor = 5 ∧ e.cursor ≤ e.size ∧ e.stack = [⟨"f", 2⟩] ∧
      e.checkedStep = .ok e.step ∧ e.step.state.cursor = 3 := by
  intro e
  have h : Reachable 4 e := (Reachable.load _ .initial).steps 7
  obtain ⟨hle, -, hok, -⟩ := h.lacks_nothing
  exact ⟨h, by decide +kernel, hle, by decide +kernel, hok, by decide +kernel⟩

end Engine

end LineDebugger
