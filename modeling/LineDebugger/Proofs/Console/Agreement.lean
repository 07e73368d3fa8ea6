import LineDebugger.Proofs.Console.Conversation
import LineDebugger.Proofs.Server.Requests
import LineDebugger.Proofs.Session.StartingOver

/-!
# The two front ends agree

The console and the server drive a session in two ways. The console takes lines as they are typed,
looks at each of them before the session does, shows what the session puts out at once, and ends
when a program fails. The server takes requests, tells all that a command put out in one response,
and goes on after a failure. Give both of them the same commands, and keep away from the lines that
do not reach the session as they were typed: then the console does what the server does, up to the
first command with which a program fails, and that command is the last one that it takes.

So there are two facts to show by induction on the lines, what is seen on the output and which
phase the program is in, and both are about the least number of lines after which a program has
failed. An error of a command is in neither of them: it is told, and both front ends go on.

## Main results

* `CommandLine.outputText_ordinary` — what is seen on the output of the console
* `CommandLine.phaseAfter_ordinary` — the conversation goes on until a program fails
* `CommandLine.front_ends_agree` — the console and the server on the same commands
-/

namespace LineDebugger

namespace CommandLine

variable {around : Surroundings} {arguments : List String} {config : Config}
  {filter : Log.Filter} {s : Session} {lines : List String}

/-- With the argument for the server before the others, the same session serves requests. -/
theorem start_serving (hconfig : readConfig around (.ofArguments arguments) = .ok config) :
    (start around (serveFlag :: arguments)).2 =
      .serving (configuredFilter around config) (.initial config.depthLimit) := by
  have hconfig' : readConfig around (.ofArguments (serveFlag :: arguments)) = .ok config := hconfig
  have hserve : (Options.ofArguments (serveFlag :: arguments)).serve = true := rfl
  rw [start]
  simp only [hconfig', hserve]
  rfl

/-! ### Some lines -/

/-- What is seen on the output is what the lines put out, up to the first one with which the
program fails. -/
theorem outputText_ordinary (hordinary : ∀ line ∈ lines, Console.Ordinary line) :
    let answers := s.answers (lines.map .line)
    outputText (feedAll around (.conversing filter s) (lines.map .entered)).writes =
      shownLines
        ((answers.take (answers.findIdx failed + 1)).flatMap fun o => outputs o.events) := by
  induction lines generalizing s with
  | nil => rfl
  | cons line lines ih =>
    obtain ⟨hline, hrest⟩ := List.forall_mem_cons.1 hordinary
    obtain ⟨hnext, hshown⟩ := feed_of_not_keeps around filter s
      (InputLine.stripped?_entered hline.no_return) hline.not_keeps
    have htake : s.take (.line line) = s.execute line := rfl
    simp only [List.map_cons, Session.answers_cons, List.findIdx_cons, htake, feedAll_cons,
      List.take_succ_cons, List.flatMap_cons, outputText_append, shownLines_append, hshown, hnext]
    cases hfailed : failed (s.execute line) with
    | true => simp [feedAll_ended]
    | false =>
      exact congrArg _ (ih (s := (s.execute line).state) hrest)

/-- Until the program fails, the conversation goes on with the session after the lines so far; then
it is over. -/
theorem phaseAfter_ordinary (hordinary : ∀ line ∈ lines, Console.Ordinary line) :
    let i := (s.answers (lines.map .line)).findIdx failed
    (∀ k ≤ i, phaseAfter around (.conversing filter s) ((lines.take k).map .entered) =
        .conversing filter (s.after (lines.take k))) ∧
      (i < lines.length →
        phaseAfter around (.conversing filter s) ((lines.take (i + 1)).map .entered) =
          .ended false) := by
  induction lines generalizing s with
  | nil => simp
  | cons line lines ih =>
    obtain ⟨hline, hrest⟩ := List.forall_mem_cons.1 hordinary
    obtain ⟨hnext, -⟩ := feed_of_not_keeps around filter s
      (InputLine.stripped?_entered hline.no_return) hline.not_keeps
    have htake : s.take (.line line) = s.execute line := rfl
    simp only [List.map_cons, Session.answers_cons, List.findIdx_cons, htake]
    cases hfailed : failed (s.execute line) with
    | true =>
      rw [hfailed, if_pos rfl] at hnext
      refine ⟨?_, fun _ => hnext⟩
      intro k hk
      obtain rfl : k = 0 := Nat.le_zero.1 hk
      rfl
    | false =>
      rw [hfailed, if_neg Bool.false_ne_true] at hnext
      obtain ⟨hgoing, hover⟩ := ih (s := (s.execute line).state) hrest
      constructor
      · intro k hk
        cases k with
        | zero => rfl
        | succ k =>
          rw [List.take_succ_cons, List.map_cons, phaseAfter_cons, hnext,
            hgoing k (Nat.le_of_succ_le_succ hk)]
          rfl
      · intro hlt
        rw [cond_false, List.take_succ_cons, List.map_cons, phaseAfter_cons, hnext,
          hover (Nat.lt_of_succ_lt_succ hlt)]

/-- Nothing is made of the lines after the first one with which the program fails. -/
theorem feedAll_take (hordinary : ∀ line ∈ lines, Console.Ordinary line) :
    let i := (s.answers (lines.map .line)).findIdx failed
    feedAll around (.conversing filter s) ((lines.take (i + 1)).map .entered) =
        feedAll around (.conversing filter s) (lines.map .entered) ∧
      ((feedAll around (.conversing filter s) (lines.map .entered)).success = false ↔
        i < lines.length) := by
  intro i
  obtain ⟨hgoing, hover⟩ := phaseAfter_ordinary (s := s) hordinary
  have hle : i ≤ (s.answers (lines.map .line)).length := List.findIdx_le_length
  rw [Session.length_answers, List.length_map] at hle
  rcases Nat.lt_or_eq_of_le hle with hlt | heq
  · have hsame : feedAll around (.conversing filter s) (lines.map .entered) =
        feedAll around (.conversing filter s) ((lines.take (i + 1)).map .entered) := by
      conv_lhs => rw [← List.take_append_drop (i + 1) lines, List.map_append]
      exact feedAll_append_of_ended (hover hlt) _
    refine ⟨hsame.symm, iff_of_true ?_ hlt⟩
    rw [hsame, feedAll_success, hover hlt]
    rfl
  · have hgo := hgoing lines.length (Nat.le_of_eq heq.symm)
    rw [List.take_length] at hgo
    rw [List.take_of_length_le (by omega), feedAll_success, hgo]
    exact ⟨rfl, iff_of_false (Ne.symm Bool.false_ne_true) (by omega)⟩

/-- **The front ends agree.** The program is started without a program to load, once for the
console and once, with one more argument, for the server. The same commands are given to both, to
the console as lines and to the server in requests. None of them has a newline in it or a carriage
return at its end, is one of the words for leaving, or begins like a request to load a file. Let
`i` be the place of the first command with which a program fails, or the number of commands.

Then the output of the console holds the lines of the responses up to the one at `i`, each ended by
a newline. What comes after the command at `i` makes no difference to the console. It fails exactly
if a program does, and no other error stops it. Before each command up to the one at `i`, the
session behind the console is the one behind the server. -/
theorem front_ends_agree {requests : List Request}
    (hconfig : readConfig around (.ofArguments arguments) = .ok config)
    (hconsole : (Options.ofArguments arguments).serve = false)
    (hscript : (Options.ofArguments arguments).scriptPath? = none)
    (hordinary : ∀ r ∈ requests, Console.Ordinary r.command) :
    let s := Session.initial config.depthLimit
    let commands := requests.map Request.command
    let answers := s.answers (commands.map .line)
    let i := answers.findIdx failed
    let console := run around arguments (InputLine.typed commands)
    outputText console.writes =
        shownLines (((Server.responsesTo s requests).take (i + 1)).flatMap Response.output) ∧
      console = run around arguments (InputLine.typed (commands.take (i + 1))) ∧
      (console.success = false ↔ ∃ o ∈ answers, ∃ error, o.error? = some (.program error)) ∧
      (start around (serveFlag :: arguments)).2 =
        .serving (configuredFilter around config) s ∧
      ∀ k ≤ i, phaseAfter around (start around arguments).2
          (InputLine.ofBytes (InputLine.typed (commands.take k))) =
        .conversing (configuredFilter around config)
          (Server.afterRequests s (requests.take k)) := by
  intro s commands answers i console
  have hlines : ∀ line ∈ commands, Console.Ordinary line := by
    intro line hline
    obtain ⟨r, hr, rfl⟩ := List.mem_map.1 hline
    exact hordinary r hr
  have hnewline : ∀ k, ∀ line ∈ commands.take k, '\n' ∉ line.toList := by
    intro k line hline
    exact (hlines line (List.mem_of_mem_take hline)).no_newline
  obtain ⟨opening, hsilent, hstart⟩ := start_conversing hconfig hconsole hscript
  have hconsole : console = _ := run_typed hstart fun line hline => (hlines line hline).no_newline
  obtain ⟨hsame, hsuccess⟩ := feedAll_take (s := s) hlines
  refine ⟨?_, ?_, ?_, start_serving hconfig, ?_⟩
  · rw [hconsole, outputText_append, hsilent, outputText_ordinary hlines, String.empty_append,
      List.flatMap_def, List.flatMap_def, List.map_take, List.map_take, Server.output_responsesTo]
  · rw [hconsole, run_typed hstart (hnewline _), hsame]
  · have hlength : answers.length = commands.length := by
      rw [Session.length_answers, List.length_map]
    rw [hconsole, hsuccess, ← hlength, List.findIdx_lt_length]
    exact exists_congr fun o => and_congr_right fun _ => Session.any_isProgram_iff
  · intro k hk
    rw [InputLine.ofBytes_typed (hnewline k), hstart]
    refine ((phaseAfter_ordinary hlines).1 k hk).trans ?_
    rw [Server.afterRequests_eq, List.map_take]

/-- A program with a missing variable is run, a line of a breakpoint is not a number, and then
another program fails. One more command is there, but it comes too late for the console. -/
def exchange : List Request :=
  [⟨1, "set code"⟩, ⟨2, "print a"⟩, ⟨3, "run"⟩, ⟨4, "add break x"⟩, ⟨5, "set code"⟩,
    ⟨6, "set a 0"⟩, ⟨7, "run"⟩, ⟨8, "print mem"⟩]

/-- The console goes on after the command that is wrong, and ends with the program that fails. -/
theorem exchange_on_console :
    let console := run bare [] (InputLine.typed (exchange.map Request.command))
    outputText console.writes = "variable absent from memory\n" ∧ console.success = false ∧
      console = run bare [] (InputLine.typed ((exchange.take 7).map Request.command)) := by
  intro console
  have hordinary : ∀ r ∈ exchange, Console.Ordinary r.command := by decide +kernel
  let answers := (Session.initial Config.standard.depthLimit).answers
    ((exchange.map Request.command).map .line)
  have hconfig : readConfig bare (.ofArguments []) = .ok .standard := rfl
  have hindex : answers.findIdx failed = 6 := by decide +kernel
  obtain ⟨hshown, hsame, hfailed, -⟩ := front_ends_agree hconfig rfl rfl hordinary
  refine ⟨hshown.trans ?_, hfailed.2 ?_, hsame.trans ?_⟩
  · decide +kernel
  · obtain ⟨o, ho, hprogram⟩ : ∃ o ∈ answers, failed o :=
      List.findIdx_lt_length.1 (by rw [hindex, Session.length_answers]; decide)
    exact ⟨o, ho, Session.any_isProgram_iff.1 hprogram⟩
  · show run bare [] (InputLine.typed
      ((exchange.map Request.command).take (answers.findIdx failed + 1))) = _
    rw [hindex, List.map_take]

end CommandLine

end LineDebugger
