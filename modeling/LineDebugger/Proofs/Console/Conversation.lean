import LineDebugger.CommandLine
import LineDebugger.Proofs.Text.InputLine
import Mathlib.Tactic.MkIffOfInductiveProp

/-!
# Conversations

Between two lines of input the program is in a phase. While it is in conversation, a line goes to
the console, and what the console answers decides whether the conversation goes on. The console
keeps some lines for itself; the session sees all the others, and only a failure of the program
that it runs ends the conversation then.

Whoever looks at the output alone sees the lines that the session puts out, each ended by a
newline: all else that is written, the prompts, complaints and the log, is reported elsewhere.

## Main definitions

* `Console.Keeps` — the console keeps the line for itself
* `Console.Ordinary` — a line that arrives as it was typed and that the session is given
* `CommandLine.phaseAfter` — the program after some lines of input
* `CommandLine.shownLines` — lines of output as the console shows them
* `CommandLine.bare` — surroundings without files and without settings
* `CommandLine.failed` — an outcome that ends the conversation

## Main results

* `CommandLine.start_conversing`, `CommandLine.run_typed` — how the program starts, and a whole run
* `CommandLine.feedAll_append` — some lines, and then some more
* `CommandLine.outputText_shown` — what is seen of some events on the output
* `CommandLine.feed_of_not_keeps` — what comes of a line that the session is given
-/

namespace LineDebugger

namespace Console

variable {text path line : String}

/-! ### Lines for the console and lines for the session -/

/-- The console keeps the line for itself: it leaves, or loads the one file that is named. -/
def Keeps (text : String) : Prop :=
  text = "quit" ∨ text = "q" ∨
    ∃ rest path, text = "load " ++ rest ∧ ShellWords.split? rest = some [path]

/-- A line names a file to load if exactly one shell word comes after `load` and a blank. -/
theorem loadPath?_eq_some_iff : loadPath? text = some path ↔
    ∃ rest, text = "load " ++ rest ∧ ShellWords.split? rest = some [path] := by
  rw [loadPath?]
  constructor
  · intro h
    split at h
    · next hprefix =>
      obtain ⟨rest, hrest⟩ := List.isPrefixOf_iff_prefix.1 hprefix
      rw [← hrest, List.drop_left] at h
      refine ⟨String.ofList rest, ?_, ?_⟩
      · rw [← String.ofList_toList (s := text), ← hrest, String.ofList_append]
        rfl
      · split at h
        · next hsplit => rw [hsplit, Option.some.inj h]
        · cases h
    · cases h
  · rintro ⟨rest, rfl, hsplit⟩
    have htext : ("load " ++ rest).toList = loadWord ++ rest.toList := String.toList_append
    have hprefix : loadWord.isPrefixOf (loadWord ++ rest.toList) :=
      List.isPrefixOf_iff_prefix.2 (List.prefix_append _ _)
    rw [htext, if_pos hprefix, List.drop_left, String.ofList_toList, hsplit]

theorem quitWords_contains_iff : quitWords.contains text ↔ text = "quit" ∨ text = "q" := by
  simp [quitWords]

/-- Whether the console keeps a line can be told from the way it reads lines. -/
theorem keeps_iff : Keeps text ↔ quitWords.contains text ∨ (loadPath? text).isSome := by
  rw [Keeps, ← or_assoc, quitWords_contains_iff, Option.isSome_iff_exists, exists_comm]
  simp only [loadPath?_eq_some_iff]

instance : DecidablePred Keeps := fun _ => decidable_of_iff _ keeps_iff.symm

/-- The session sees the lines that the console does not keep. -/
theorem ofLine_of_not_keeps (h : ¬Keeps text) : Action.ofLine text = .forward text := by
  rw [keeps_iff, not_or] at h
  rw [Action.ofLine, if_neg h.1, Option.not_isSome_iff_eq_none.1 h.2]

/-- A line that the console does not keep is given to the session. -/
theorem turn_of_not_keeps {line : InputLine} (hline : line.stripped? = some text)
    (h : ¬Keeps text) (read : String → Except ReadError String) (s : Session) :
    turn read s line = forward s text := by
  rw [turn, hline]
  dsimp only
  rw [ofLine_of_not_keeps h]

/-- A line that arrives as it was typed and that the session is given. -/
@[mk_iff]
structure Ordinary (line : String) : Prop where
  no_newline : '\n' ∉ line.toList
  no_return : line.toList.getLast? ≠ some '\r'
  no_quit : line ≠ "quit" ∧ line ≠ "q"
  no_load : ¬"load ".toList <+: line.toList

instance : DecidablePred Ordinary := fun line => decidable_of_iff _ (ordinary_iff line).symm

theorem Ordinary.not_keeps (h : Ordinary line) : ¬Keeps line := by
  rintro (rfl | rfl | ⟨rest, path, rfl, -⟩)
  · exact h.no_quit.1 rfl
  · exact h.no_quit.2 rfl
  · refine h.no_load ?_
    rw [String.toList_append]
    exact List.prefix_append _ _

end Console

namespace CommandLine

variable {around : Surroundings} {arguments : List String} {config : Config} {phase : Phase}
  {filter : Log.Filter} {lines more : List InputLine}

/-! ### Phases -/

/-- The program after some lines of input. -/
def phaseAfter (around : Surroundings) (phase : Phase) (lines : List InputLine) : Phase :=
  lines.foldl (fun phase line => (feed around phase line).2) phase

@[simp] theorem phaseAfter_nil : phaseAfter around phase [] = phase := rfl

@[simp] theorem phaseAfter_cons (line : InputLine) : phaseAfter around phase (line :: lines) =
    phaseAfter around (feed around phase line).2 lines := rfl

theorem phaseAfter_append : phaseAfter around phase (lines ++ more) =
    phaseAfter around (phaseAfter around phase lines) more :=
  List.foldl_append

@[simp] theorem feedAll_cons (line : InputLine) : feedAll around phase (line :: lines) =
    ⟨(feed around phase line).1 ++ (feedAll around (feed around phase line).2 lines).writes,
      (feedAll around (feed around phase line).2 lines).success⟩ := rfl

/-- Some lines are taken, and then some more. -/
theorem feedAll_append (lines more : List InputLine) : feedAll around phase (lines ++ more) =
    ⟨(feedAll around phase lines).writes ++
        (feedAll around (phaseAfter around phase lines) more).writes,
      (feedAll around (phaseAfter around phase lines) more).success⟩ := by
  induction lines generalizing phase with
  | nil => rfl
  | cons line lines ih =>
    rw [List.cons_append, feedAll_cons, ih, feedAll_cons, phaseAfter_cons, List.append_assoc]

/-- Whether the program succeeds can be told from its last phase. -/
theorem feedAll_success (phase : Phase) (lines : List InputLine) :
    (feedAll around phase lines).success = close (phaseAfter around phase lines) := by
  have hnothing : (feedAll around phase (lines ++ [])).success = _ :=
    congrArg Result.success (feedAll_append lines [])
  rwa [List.append_nil] at hnothing

/-- A program that has ended takes no notice of its input. -/
theorem feedAll_ended (success : Bool) (lines : List InputLine) :
    feedAll around (.ended success) lines = ⟨[], success⟩ := by
  induction lines with
  | nil => rfl
  | cons line lines ih =>
    have hfeed : feed around (.ended success) line = ([], .ended success) := rfl
    rw [feedAll_cons, hfeed, ih]
    rfl

/-- Once the program has ended, it makes no difference what else is there to be taken. -/
theorem feedAll_append_of_ended {success : Bool}
    (h : phaseAfter around phase lines = .ended success) (more : List InputLine) :
    feedAll around phase (lines ++ more) = feedAll around phase lines := by
  have hsuccess : (feedAll around phase lines).success = _ := feedAll_success phase lines
  rw [h] at hsuccess
  rw [feedAll_append, h, feedAll_ended, List.append_nil]
  exact congrArg (Result.mk _) hsuccess.symm

/-! ### What is seen on the output -/

/-- Lines of output as the console shows them. -/
def shownLines (lines : List String) : String := String.join (lines.map (· ++ "\n"))

@[simp] theorem shownLines_nil : shownLines [] = "" := rfl

theorem shownLines_append (lines more : List String) :
    shownLines (lines ++ more) = shownLines lines ++ shownLines more := by
  rw [shownLines, List.map_append, String.join_append]
  rfl

@[simp] theorem outputText_nil : outputText [] = "" := rfl

theorem outputText_append (writes more : List Write) :
    outputText (writes ++ more) = outputText writes ++ outputText more := by
  rw [outputText, List.filterMap_append, String.join_append]
  rfl

/-- Nothing that is reported is seen on the output. -/
theorem outputText_map_report {α : Type} (text : α → String) (items : List α) :
    outputText (items.map fun item => .report (text item)) = "" := by
  induction items with
  | nil => rfl
  | cons item items ih => exact ih

theorem outputText_logged (filter : Log.Filter) (event : Event) :
    outputText (logged filter event) = "" :=
  outputText_map_report Log.Entry.written _

/-- Of some events the lines of output are seen. -/
theorem outputText_shown (filter : Log.Filter) (events : List Event) :
    outputText (events.flatMap (shown filter)) = shownLines (outputs events) := by
  induction events with
  | nil => rfl
  | cons event events ih =>
    rw [List.flatMap_cons, outputText_append, ih, shown, outputText_append, outputText_logged,
      String.append_empty]
    cases h : event.output? with
    | none =>
      have hnone : outputs (event :: events) = outputs events := List.filterMap_cons_none h
      rw [hnone]
      exact String.empty_append
    | some text =>
      have hsome : outputs (event :: events) = [text] ++ outputs events :=
        List.filterMap_cons_some h
      rw [hsome, shownLines_append]
      rfl

/-- What is only reported after them does not count. -/
theorem outputText_shown_append (filter : Log.Filter) (events : List Event) {writes : List Write}
    (h : outputText writes = "") :
    outputText (events.flatMap (shown filter) ++ writes) = shownLines (outputs events) := by
  rw [outputText_append, outputText_shown, h, String.append_empty]

/-! ### Starting -/

/-- The log entries that are shown, with the given configuration. -/
def configuredFilter (around : Surroundings) (config : Config) : Log.Filter :=
  (Log.Filter.ofText (around.logFilter?.getD (config.logLevel?.getD "warn"))).1

/-- Without a program to load, a conversation starts with nothing on the output. -/
theorem start_conversing (hconfig : readConfig around (.ofArguments arguments) = .ok config)
    (hconsole : (Options.ofArguments arguments).serve = false)
    (hscript : (Options.ofArguments arguments).scriptPath? = none) :
    ∃ opening, outputText opening = "" ∧ start around arguments =
      (opening, .conversing (configuredFilter around config) (.initial config.depthLimit)) := by
  rw [start]
  simp only [hconfig, hconsole, hscript, Bool.false_eq_true, if_false, Option.map_none]
  refine ⟨_, ?_, rfl⟩
  rw [outputText_append, outputText_append, outputText_logged, outputText_map_report]
  rfl

/-- Surroundings without files and without settings. -/
def bare : Surroundings := ⟨fun _ => .error .notFound, none⟩

/-- What the program makes of lines that are typed. -/
theorem run_typed {texts : List String} {opening : List Write} {phase : Phase}
    (hstart : start around arguments = (opening, phase))
    (h : ∀ line ∈ texts, '\n' ∉ line.toList) :
    run around arguments (InputLine.typed texts) =
      ⟨opening ++ (feedAll around phase (texts.map .entered)).writes,
        (feedAll around phase (texts.map .entered)).success⟩ := by
  rw [run, hstart, InputLine.ofBytes_typed h]

/-! ### Lines that the session is given -/

/-- The program has failed. -/
def failed (o : Outcome Session CommandError) : Bool := o.error?.any CommandError.isProgram

/-- A line that the console does not keep is carried out, and what the session puts out is shown.
Only a failure of the program ends the conversation. -/
theorem feed_of_not_keeps (around : Surroundings) (filter : Log.Filter) (s : Session)
    {line : InputLine} {text : String} (hline : line.stripped? = some text)
    (h : ¬Console.Keeps text) :
    (feed around (.conversing filter s) line).2 =
        (if failed (s.execute text) then .ended false
          else .conversing filter (s.execute text).state) ∧
      outputText (feed around (.conversing filter s) line).1 =
        shownLines (outputs (s.execute text).events) := by
  rw [feed, Console.turn_of_not_keeps hline h, Console.forward, failed]
  rcases herr : (s.execute text).error? with _ | (error | error)
  · exact ⟨rfl, outputText_shown_append filter _ rfl⟩
  · exact ⟨rfl, outputText_shown_append filter _ rfl⟩
  · -- the complaint about a breakpoint goes to the log
    have hlog : outputs [.commandFailed (.invalidBreakpoint error)] = [] := rfl
    refine ⟨rfl, ?_⟩
    rw [outputText_shown_append filter _ rfl, outputs_append, hlog, List.append_nil]

end CommandLine

end LineDebugger
