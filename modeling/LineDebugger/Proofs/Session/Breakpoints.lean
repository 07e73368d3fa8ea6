import LineDebugger.Proofs.Session.Inspection
import LineDebugger.Proofs.Text.Rows
import Mathlib.Data.List.Perm.Basic

/-!
# Breakpoints over a whole history

Three commands change the breakpoints of a session, and nothing else does: no run and no error, not
starting over and not a new program. So which lines have a breakpoint can be told from the commands
that were given, by looking for the last one about a line. And which commands were given can be told
from the inputs alone. It has to be known only whether a program is awaited, because a line that is
taken for a program is no command, whatever it says; and that, again, is decided by the inputs.

A listing of the breakpoints is a way to keep them. It shows each line once, in the order of
numbers, and giving one command for each row, in whatever order, sets the same breakpoints again.
Such a history has no commands of another kind in it, so what it leads to follows from the law about
histories.

## Main definitions

* `Breakpoints.afterCommand` — what a command does to the breakpoints
* `Command.LeaveSet` — some commands leave the breakpoint on a line set
* `Session.Input.command?`, `Session.Input.awaits` — what an input is, by itself
* `Session.commandsIn` — the commands that are given by some inputs
* `Session.setAgain` — a row of a listing as a line that sets the breakpoint again

## Main results

* `Session.take_state` — an input, and all that it changes besides the engine
* `Session.afterInputs_breakpoints` — the breakpoints after some inputs
* `Session.breakpoints_follow_commands` — which lines have one, and what a listing of them is good
  for
-/

namespace LineDebugger

/-! ### Commands one after another -/

/-- The breakpoints after a command. Most commands leave them alone. -/
def Breakpoints.afterCommand (b : Breakpoints) (c : Command) : Breakpoints :=
  (c.breakpoints? b).getD b

namespace Command

variable {commands : List Command} {c : Command} {line : Nat} {b : Breakpoints} {text : String}

/-- One of the commands set a breakpoint on the line, and none after it removed it. -/
def LeaveSet (commands : List Command) (line : Nat) : Prop :=
  ∃ before more, commands = before ++ .addBreakpoint line :: more ∧
    .removeBreakpoint line ∉ more ∧ .clearBreakpoints ∉ more

theorem not_leaveSet_nil : ¬LeaveSet [] line := by
  rintro ⟨before, more, heq, -⟩
  exact List.append_ne_nil_of_right_ne_nil before (List.cons_ne_nil _ more) heq.symm

/-- The last command sets the breakpoint, or it was left set and the last command leaves it so. -/
theorem leaveSet_append_singleton :
    LeaveSet (commands ++ [c]) line ↔ c = .addBreakpoint line ∨
      c ≠ .removeBreakpoint line ∧ c ≠ .clearBreakpoints ∧ LeaveSet commands line := by
  constructor
  · rintro ⟨before, more, heq, hremove, hclear⟩
    rcases List.eq_nil_or_concat more with rfl | ⟨more, last, rfl⟩
    · exact .inl (List.singleton_inj.1 (List.append_inj_right' heq rfl))
    · rw [List.concat_eq_append] at heq hremove hclear
      rw [← List.cons_append, ← List.append_assoc] at heq
      obtain ⟨rfl, hlast⟩ := List.append_inj' heq rfl
      obtain rfl := List.singleton_inj.1 hlast
      refine .inr ⟨?_, ?_, before, more, rfl, ?_, ?_⟩
      · rintro rfl
        exact hremove (by simp)
      · rintro rfl
        exact hclear (by simp)
      · exact fun hmem => hremove (List.mem_append_left _ hmem)
      · exact fun hmem => hclear (List.mem_append_left _ hmem)
  · rintro (rfl | ⟨hremove, hclear, before, more, rfl, hremoves, hclears⟩)
    · exact ⟨commands, [], rfl, List.not_mem_nil, List.not_mem_nil⟩
    · refine ⟨before, more ++ [c], by simp, ?_, ?_⟩
      · simp [hremoves, hremove.symm]
      · simp [hclears, hclear.symm]

/-- Commands that do nothing but set breakpoints leave all of them set. -/
theorem leaveSet_map_addBreakpoint {lines : List Nat} :
    LeaveSet (lines.map addBreakpoint) line ↔ line ∈ lines := by
  constructor
  · rintro ⟨before, more, heq, -⟩
    have hmem : addBreakpoint line ∈ lines.map addBreakpoint := by simp [heq]
    simpa using hmem
  · intro hmem
    obtain ⟨before, more, rfl⟩ := List.append_of_mem hmem
    exact ⟨before.map addBreakpoint, more.map addBreakpoint, by simp, by simp, by simp⟩

theorem contains_afterCommand :
    (b.afterCommand c).contains line ↔ c = .addBreakpoint line ∨
      c ≠ .removeBreakpoint line ∧ c ≠ .clearBreakpoints ∧ b.contains line := by
  cases c <;> simp [Breakpoints.afterCommand, breakpoints?]

/-- After some commands those lines have a breakpoint on which they leave one set. -/
theorem contains_foldl_afterCommand :
    (commands.foldl Breakpoints.afterCommand .empty).contains line ↔ LeaveSet commands line := by
  induction commands using List.reverseRecOn with
  | nil => simp [not_leaveSet_nil]
  | append_singleton commands c ih =>
    rw [List.foldl_append, List.foldl_cons, List.foldl_nil, contains_afterCommand,
      leaveSet_append_singleton, ih]

/-- The command that a text is read as, if it is one. -/
def given? (text : String) : Option Command := (parse text).toOption.join

theorem given?_eq_some_iff : given? text = some c ↔ parse text = .ok (some c) := by
  rw [given?]
  cases parse text <;> simp [Except.toOption]

theorem given?_eq_setCode_iff : given? text = some .setCode ↔ text = "set code" := by
  rw [given?_eq_some_iff, parse_eq_some_iff]
  generalize Text.words text = ws
  constructor
  · intro h
    cases h
    rfl
  · rintro rfl
    exact .setCode ws

/-- Only a line below `2 ^ 64` is given a breakpoint. -/
theorem lt_of_given?_eq_addBreakpoint (h : given? text = some (.addBreakpoint line)) :
    line < 2 ^ 64 := by
  rw [given?_eq_some_iff, parse_eq_some_iff] at h
  generalize Text.words text = ws at h
  cases h with
  | addBreakpoint _ hnames =>
    obtain ⟨-, hfits⟩ := hnames
    exact hfits

/-- The command for a breakpoint, with the line in decimal. -/
theorem parse_addBreak (hfits : line < 2 ^ 64) :
    parse ("add break " ++ toString line) = .ok (some (.addBreakpoint line)) := by
  have hrow : "add break " ++ toString line = Text.ofWords ["add", "break", toString line] := by
    simp only [Text.ofWords, String.intercalate_cons_cons, String.intercalate_singleton,
      ← String.append_assoc]
    rfl
  have hwords : Text.words ("add break " ++ toString line) = ["add", "break", toString line] := by
    rw [hrow]
    apply Text.words_ofWords
    simp only [List.forall_mem_cons]
    exact ⟨by decide, by decide, Numeral.isRun_toString line,
      fun _ hno => absurd hno List.not_mem_nil⟩
  have hnumeral : Numeral.DenotesNatural (toString line).toList line :=
    .bare (Numeral.digits?_eq_some_iff.1 (Numeral.isDecimal_toString line).digits)
  rw [parse_eq_some_iff, hwords]
  exact .addBreakpoint _ (.numeral hnumeral hfits)

end Command

/-- The lines with a breakpoint are listed in ascending order. -/
theorem Breakpoints.pairwise_toList (b : Breakpoints) : b.toList.Pairwise (· < ·) :=
  Std.ExtTreeSet.ordered_toList.imp fun hlt => Nat.compare_eq_lt.1 hlt

theorem Breakpoints.mem_toList {b : Breakpoints} {line : Nat} :
    line ∈ b.toList ↔ b.contains line := by
  rw [← contains_toList, List.contains_iff_mem]

namespace Session

variable {s : Session} {input : Input} {inputs : List Input} {c : Command} {line : Nat}
  {awaiting : Bool}

/-! ### What the inputs are -/

/-- The command that an input is, when a program is awaited or is not. -/
def Input.command? (awaiting : Bool) : Input → Option Command
  | .line text => if awaiting then none else Command.given? text
  | .source _ => none

/-- Is a program awaited after this input? -/
def Input.awaits (awaiting : Bool) : Input → Bool
  | .line text => if text = "" then awaiting else !awaiting && text == "set code"
  | .source _ => awaiting

/-- The commands that are given by some inputs. -/
def commandsIn : Bool → List Input → List Command
  | _, [] => []
  | awaiting, input :: inputs =>
    (input.command? awaiting).toList ++ commandsIn (input.awaits awaiting) inputs

/-- A command is read from a line. -/
theorem Input.exists_of_command?_eq_some (h : input.command? awaiting = some c) :
    ∃ text, Command.given? text = some c := by
  cases input with
  | source text => cases h
  | line text => exact ⟨text, (Option.ite_none_left_eq_some.1 h).2⟩

/-- Only lines below `2 ^ 64` are given breakpoints. -/
theorem lt_of_mem_commandsIn (h : .addBreakpoint line ∈ commandsIn awaiting inputs) :
    line < 2 ^ 64 := by
  induction inputs generalizing awaiting with
  | nil => cases h
  | cons input inputs ih =>
    rcases List.mem_append.1 h with hfirst | hmore
    · obtain ⟨text, hgiven⟩ := Input.exists_of_command?_eq_some (Option.mem_toList.1 hfirst)
      exact Command.lt_of_given?_eq_addBreakpoint hgiven
    · exact ih hmore

/-! ### What the inputs do -/

/-- All that a command changes besides the engine. -/
theorem perform_state (s : Session) (c : Command) :
    ∃ engine, (s.perform c).state =
      ⟨engine, s.breakpoints.afterCommand c, c == .setCode || s.awaitingSource⟩ := by
  cases hmoves : c.moves with
  | false =>
    cases c with
    | run | step | stepOver => cases hmoves
    | _ => exact ⟨_, rfl⟩
  | true =>
    obtain ⟨n, hstate⟩ := perform_of_moves hmoves s
    refine ⟨(s.engine.steps n).state, hstate.trans ?_⟩
    cases c with
    | run | step | stepOver => rfl
    | _ => cases hmoves

/-- All that a line changes besides the engine, when it is taken for a command. -/
theorem dispatch_state (s : Session) (text : String) :
    ∃ engine, (s.dispatch text).state =
      ⟨engine, (Command.given? text).elim s.breakpoints s.breakpoints.afterCommand,
        Command.given? text == some .setCode || s.awaitingSource⟩ := by
  rw [dispatch, Command.given?]
  cases Command.parse text with
  | error error => exact ⟨s.engine, rfl⟩
  | ok command? =>
    cases command? with
    | none => exact ⟨s.engine, rfl⟩
    | some c => exact perform_state s c

/-- Starting over changes nothing but the engine. -/
theorem settle_state (o : Outcome Session CommandError) :
    ∃ engine, (settle o).state = { o.state with engine } := by
  rw [settle]
  split
  · exact ⟨_, rfl⟩
  · exact ⟨_, rfl⟩

/-- All that an input changes besides the engine. -/
theorem take_state (s : Session) (input : Input) :
    ∃ engine, (s.take input).state =
      ⟨engine, (input.command? s.awaitingSource).elim s.breakpoints s.breakpoints.afterCommand,
        input.awaits s.awaitingSource⟩ := by
  cases input with
  | source text => exact ⟨_, rfl⟩
  | line text =>
    rw [take, Input.command?, Input.awaits]
    rcases eq_or_ne text "" with rfl | hline
    · refine ⟨s.engine, ?_⟩
      rw [if_pos rfl, show Command.given? "" = none from rfl, ite_self]
      rfl
    rw [if_neg hline]
    cases ha : s.awaitingSource with
    | true =>
      rw [execute, if_neg hline, ha]
      exact ⟨_, rfl⟩
    | false =>
      obtain ⟨engine, hdispatch⟩ := dispatch_state s text
      obtain ⟨restarted, hsettle⟩ := settle_state (s.dispatch text)
      have hcode : (Command.given? text == some .setCode) = (text == "set code") := by
        rw [Bool.eq_iff_iff, beq_iff_eq, beq_iff_eq, Command.given?_eq_setCode_iff]
      refine ⟨restarted, ?_⟩
      rw [execute_of_ne_empty hline ha, hsettle, hdispatch, hcode, ha, Bool.or_false]
      rfl

/-- The breakpoints after some inputs are those that the commands in them lead to. -/
theorem afterInputs_breakpoints :
    (s.afterInputs inputs).breakpoints =
      (commandsIn s.awaitingSource inputs).foldl Breakpoints.afterCommand s.breakpoints := by
  induction inputs generalizing s with
  | nil => rfl
  | cons input inputs ih =>
    obtain ⟨engine, hstate⟩ := take_state s input
    rw [afterInputs_cons, ih, hstate, commandsIn, List.foldl_append]
    cases input.command? s.awaitingSource <;> rfl

/-- From a session without breakpoints, some inputs lead to those that the commands leave set. -/
theorem contains_afterInputs (hb : s.breakpoints = .empty) :
    (s.afterInputs inputs).breakpoints.contains line ↔
      Command.LeaveSet (commandsIn s.awaitingSource inputs) line := by
  rw [afterInputs_breakpoints, hb, Command.contains_foldl_afterCommand]

/-! ### Listing them -/

/-- Listing the breakpoints shows all of them in their order. -/
theorem outputs_printBreakpoints (ha : s.awaitingSource = false) :
    outputs (s.execute "print breaks").events = s.breakpoints.toList.map toString := by
  have hparse : Command.parse "print breaks" = .ok (some .printBreakpoints) := rfl
  rw [execute_of_parse ha hparse, outputs_settle, ← List.filterMap_eq_map]
  exact List.filterMap_map

/-- The line that sets the breakpoint which a row of a listing shows. -/
def setAgain (row : String) : Input := .line ("add break " ++ row)

/-- Each of these lines is a command. -/
theorem commandsIn_setAgain {lines : List Nat} (hfits : ∀ line ∈ lines, line < 2 ^ 64) :
    commandsIn false ((lines.map toString).map setAgain) = lines.map .addBreakpoint := by
  induction lines with
  | nil => rfl
  | cons line lines ih =>
    obtain ⟨hline, hlines⟩ := List.forall_mem_cons.1 hfits
    have hgiven : Command.given? ("add break " ++ toString line) = some (.addBreakpoint line) :=
      Command.given?_eq_some_iff.2 (Command.parse_addBreak hline)
    have hcommand : (setAgain (toString line)).command? false = some (.addBreakpoint line) := hgiven
    have hawaits : (setAgain (toString line)).awaits false = false := by
      have hne : "add break " ++ toString line ≠ "" := by
        intro hempty
        rw [hempty] at hgiven
        cases hgiven
      have hcode : ("add break " ++ toString line == "set code") = false := by
        rw [beq_eq_false_iff_ne, ne_eq, ← Command.given?_eq_setCode_iff, hgiven]
        exact Command.noConfusion ∘ Option.some.inj
      rw [setAgain, Input.awaits, if_neg hne, hcode]
      rfl
    rw [List.map_cons, List.map_cons, commandsIn, hcommand, hawaits, ih hlines]
    rfl

/-- From a session without breakpoints, the rows of a listing in any order lead to the breakpoints
that are listed. -/
theorem afterInputs_setAgain (ha : s.awaitingSource = false) (hb : s.breakpoints = .empty)
    {b : Breakpoints} (hfits : ∀ line ∈ b.toList, line < 2 ^ 64) {rows : List String}
    (hrows : rows.Perm (b.toList.map toString)) :
    (s.afterInputs (rows.map setAgain)).breakpoints = b := by
  obtain ⟨lines, rfl, hlines⟩ :=
    (congrFun (congrFun (List.eq_map_comp_perm toString) rows) b.toList).mpr hrows
  ext line
  rw [Bool.eq_iff_iff, contains_afterInputs hb, ha, commandsIn_setAgain, ← Breakpoints.mem_toList,
    Command.leaveSet_map_addBreakpoint, hlines.mem_iff]
  exact fun other hother => hfits other (hlines.subset hother)

/-- **Breakpoints follow the commands.** After any inputs, a line has a breakpoint exactly if the
commands that are given by these inputs leave one set on it: one of them set it, and none after it
removed it or removed all. Unless a program is awaited, a listing of the breakpoints shows them in
ascending order, each once, and no other line. From any session without breakpoints, the rows of
this listing, each as a command and in whatever order, lead to the same breakpoints. -/
theorem breakpoints_follow_commands (limit : Nat) (inputs : List Input) :
    let s := (initial limit).afterInputs inputs
    (∀ line, s.breakpoints.contains line ↔ Command.LeaveSet (commandsIn false inputs) line) ∧
      (s.awaitingSource = false → ∃ lines : List Nat,
        outputs (s.execute "print breaks").events = lines.map toString ∧
          lines.Pairwise (· < ·) ∧ (∀ line, line ∈ lines ↔ s.breakpoints.contains line) ∧
            ∀ (t : Session) (rows : List String), t.awaitingSource = false →
              t.breakpoints = .empty →
                rows.Perm (outputs (s.execute "print breaks").events) →
                  (t.afterInputs (rows.map setAgain)).breakpoints = s.breakpoints) := by
  intro s
  have hset : ∀ line, s.breakpoints.contains line ↔
      Command.LeaveSet (commandsIn false inputs) line := fun line => contains_afterInputs rfl
  refine ⟨hset, fun ha => ?_⟩
  refine ⟨s.breakpoints.toList, outputs_printBreakpoints ha, s.breakpoints.pairwise_toList,
    fun line => Breakpoints.mem_toList, ?_⟩
  intro t rows ht hempty hrows
  rw [outputs_printBreakpoints ha] at hrows
  refine afterInputs_setAgain ht hempty ?_ hrows
  intro line hline
  obtain ⟨before, more, heq, -⟩ := (hset line).1 (Breakpoints.mem_toList.1 hline)
  exact lt_of_mem_commandsIn (heq ▸ List.mem_append_right _ List.mem_cons_self)

/-- Breakpoints are set and removed. A line that would set one more is taken for a program, which
then fails, and a program that is loaded over it misses a variable. -/
def markedHistory : List Input :=
  [.line "add break 10", .line "add\tbreak +009", .line "add break 3", .line "remove break 3",
    .line "set code", .line "", .line "add break 7", .line "run", .source "print a", .line "run"]

/-- Two breakpoints are left, and are set again in another session, in the other order. -/
theorem markedHistory_listed :
    let s := (initial 4).afterInputs markedHistory
    Command.LeaveSet (commandsIn false markedHistory) 9 ∧
      ¬Command.LeaveSet (commandsIn false markedHistory) 7 ∧
        outputs (s.execute "print breaks").events = ["9", "10"] ∧
          ((initial 0).afterInputs
            [.line "add break 10", .line "add break 9"]).breakpoints = s.breakpoints := by
  intro s
  obtain ⟨hset, hlisted⟩ := breakpoints_follow_commands 4 markedHistory
  obtain ⟨lines, -, -, -, hagain⟩ := hlisted (by decide +kernel)
  have hrows : outputs (s.execute "print breaks").events = ["9", "10"] := by decide +kernel
  refine ⟨(hset 9).1 (by decide +kernel), fun hleft => ?_, hrows, ?_⟩
  · exact absurd ((hset 7).2 hleft) (by decide +kernel)
  · exact hagain (initial 0) ["10", "9"] rfl rfl (hrows ▸ .swap "9" "10" [])

end Session

end LineDebugger
