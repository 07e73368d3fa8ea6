import LineDebugger.Proofs.Console.Conversation
import LineDebugger.Proofs.Session.Loading

/-!
# The line that is awaited

After `set code` a session awaits a program, and whatever the next line with anything on it says,
the session takes it for the program. But on the console the session is not asked first. The
console looks at every line before the session sees it, and keeps for itself the two words for
leaving and the command to load a file, without knowing what the session waits for. So these lines
are no programs there: the first two end the conversation, and after the third a program is still
awaited, also if the file has been loaded.

There are no other exceptions. Any other line is the program, and the lines after it are commands
again.

## Main results

* `CommandLine.awaited_line_loaded_iff` — the line after `set code` is the program exactly if the
  console does not keep it
* `CommandLine.quit_while_awaiting` — the conversation is left while a program is awaited
-/

namespace LineDebugger

namespace Console

variable {text rest path : String} {line : InputLine}

/-- The words for leaving leave, whatever the session waits for. -/
theorem turn_of_quit (h : text = "quit" ∨ text = "q") (hline : line.stripped? = some text)
    (read : String → Except ReadError String) (s : Session) :
    turn read s line = ⟨s, [], some .left⟩ := by
  rw [turn, hline]
  dsimp only
  rw [Action.ofLine, if_pos (quitWords_contains_iff.2 h)]

/-- A line that names one file has the console load it, whatever the session waits for. -/
theorem turn_of_load (h : text = "load " ++ rest) (hsplit : ShellWords.split? rest = some [path])
    (hline : line.stripped? = some text) (read : String → Except ReadError String) (s : Session) :
    turn read s line = load read s path := by
  have hquit : ¬quitWords.contains text := by
    have hhead : text.toList.head? = some 'l' := by
      rw [h, String.toList_append]
      rfl
    rw [quitWords_contains_iff]
    rintro (rfl | rfl) <;> exact absurd hhead (by decide)
  rw [turn, hline]
  dsimp only
  rw [Action.ofLine, if_neg hquit, loadPath?_eq_some_iff.2 ⟨rest, h, hsplit⟩]

/-- After a file has been loaded, or not, the conversation goes on, and a program is awaited if one
was before. -/
theorem load_awaiting (read : String → Except ReadError String) (s : Session) (path : String) :
    (load read s path).ending? = none ∧
      (load read s path).session.awaitingSource = s.awaitingSource := by
  rw [load]
  cases read path with
  | error error => exact ⟨rfl, rfl⟩
  | ok source => exact ⟨rfl, rfl⟩

/-- A line with nothing on it does nothing. -/
theorem turn_of_blank (hline : line.stripped? = some "")
    (read : String → Except ReadError String) (s : Session) : turn read s line = ⟨s, [], none⟩ := by
  rw [turn, hline]
  rfl

theorem not_keeps_setCode : ¬Keeps "set code" :=
  Ordinary.not_keeps ⟨by decide, by decide, by decide, by decide⟩

end Console

namespace CommandLine

variable {around : Surroundings} {filter : Log.Filter} {s : Session} {text : String}
  {setCode line : InputLine} {blanks : List InputLine}

/-- Lines with nothing on them do nothing. -/
theorem phaseAfter_blanks (hblanks : ∀ line ∈ blanks, line.stripped? = some "") :
    phaseAfter around (.conversing filter s) blanks = .conversing filter s := by
  induction blanks with
  | nil => rfl
  | cons line blanks ih =>
    obtain ⟨hline, hrest⟩ := List.forall_mem_cons.1 hblanks
    have hfeed : (feed around (.conversing filter s) line).2 = .conversing filter s := by
      rw [feed, Console.turn_of_blank hline]
    rw [phaseAfter_cons, hfeed, ih hrest]

/-- After `set code` the conversation goes on, and a program is awaited. -/
theorem feed_setCode (around : Surroundings) (filter : Log.Filter) (ha : s.awaitingSource = false)
    (hset : setCode.stripped? = some "set code") :
    (feed around (.conversing filter s) setCode).2 =
        .conversing filter (s.execute "set code").state ∧
      (s.execute "set code").state.awaitingSource := by
  have hgoes : failed (s.execute "set code") = false := by
    rw [Session.execute_of_parse ha rfl, failed, Session.settle_error?]
    rfl
  obtain ⟨e, -, hstate⟩ := Session.execute_setCode ha
  constructor
  · rw [(feed_of_not_keeps around filter s hset Console.not_keeps_setCode).1, hgoes]
    rfl
  · rw [hstate]

/-- The words for leaving end the conversation. -/
theorem feed_of_quit (h : text = "quit" ∨ text = "q") (hline : line.stripped? = some text) :
    (feed around (.conversing filter s) line).2 = .ended true := by
  rw [feed, Console.turn_of_quit h hline]

/-- After a line that names a file, a program is awaited if one was before. -/
theorem feed_of_load (around : Surroundings) (filter : Log.Filter) (s : Session)
    {rest path : String} (h : text = "load " ++ rest)
    (hsplit : ShellWords.split? rest = some [path]) (hline : line.stripped? = some text) :
    ∃ u : Session, u.awaitingSource = s.awaitingSource ∧
      (feed around (.conversing filter s) line).2 = .conversing filter u := by
  obtain ⟨hgoes, hstill⟩ := Console.load_awaiting around.read s path
  refine ⟨_, hstill, ?_⟩
  rw [feed, Console.turn_of_load h hsplit hline, hgoes]

/-- An awaited line is loaded exactly if the console does not keep it. -/
theorem feed_awaited_iff (ha : s.awaitingSource) (htext : text ≠ "")
    (hline : line.stripped? = some text) :
    (feed around (.conversing filter s) line).2 =
        .conversing filter ⟨.loaded s.engine.depthLimit text, s.breakpoints, false⟩ ↔
      ¬Console.Keeps text := by
  constructor
  · intro hloaded hkeeps
    rcases or_assoc.2 hkeeps with hword | ⟨rest, path, hrest, hsplit⟩
    · rw [feed_of_quit hword hline] at hloaded
      cases hloaded
    · obtain ⟨u, hu, hnext⟩ := feed_of_load around filter s hrest hsplit hline
      -- after the load a program is still awaited, but a loaded program is not
      rw [hnext, Phase.conversing.injEq] at hloaded
      rw [hloaded.2, ha] at hu
      cases hu
  · intro hkeeps
    rw [(feed_of_not_keeps around filter s hline hkeeps).1, Session.execute_of_awaiting ha htext]
    rfl

/-- **The line after `set code` on the console.** Once `set code` has been carried out, a program
is awaited, also after lines with nothing on them. The next line with anything on it is loaded as
the program, with nothing left of the program before, exactly if the console does not keep it for
itself. The words for leaving end the conversation, and after a line that names a file a program is
still awaited. Once the program is loaded, lines are commands again. -/
theorem awaited_line_loaded_iff (ha : s.awaitingSource = false)
    (hset : setCode.stripped? = some "set code")
    (hblanks : ∀ line ∈ blanks, line.stripped? = some "")
    (hline : line.stripped? = some text) (htext : text ≠ "") :
    let t := (s.execute "set code").state
    let loaded : Session := ⟨.loaded s.engine.depthLimit text, s.breakpoints, false⟩
    let next := phaseAfter around (.conversing filter s) (setCode :: blanks ++ [line])
    (phaseAfter around (.conversing filter s) (setCode :: blanks) = .conversing filter t ∧
      t.awaitingSource) ∧
    (next = .conversing filter loaded ↔ ¬Console.Keeps text) ∧
    (text = "quit" ∨ text = "q" → next = .ended true) ∧
    (∀ rest path, text = "load " ++ rest → ShellWords.split? rest = some [path] →
      ∃ u : Session, u.awaitingSource ∧ next = .conversing filter u) ∧
    ∀ command, command ≠ "" →
      loaded.execute command = Session.settle (loaded.dispatch command) := by
  intro t loaded next
  obtain ⟨e, hlimit, ht⟩ := Session.execute_setCode ha
  obtain ⟨hfirst, hawaiting⟩ := feed_setCode around filter ha hset
  have hpending : phaseAfter around (.conversing filter s) (setCode :: blanks) =
      .conversing filter t := by
    rw [phaseAfter_cons, hfirst, phaseAfter_blanks hblanks]
  have hnext : next = (feed around (.conversing filter t) line).2 := by
    show phaseAfter around _ (setCode :: blanks ++ [line]) = _
    rw [phaseAfter_append, hpending]
    rfl
  have hloaded : loaded = ⟨.loaded t.engine.depthLimit text, t.breakpoints, false⟩ := by
    rw [show t = _ from ht, hlimit]
  rw [hnext]
  refine ⟨⟨hpending, hawaiting⟩, ?_, ?_, ?_, ?_⟩
  · rw [hloaded]
    exact feed_awaited_iff hawaiting htext hline
  · exact fun hword => feed_of_quit hword hline
  · intro rest path hrest hsplit
    obtain ⟨u, hu, hstill⟩ := feed_of_load around filter t hrest hsplit hline
    exact ⟨u, hu.trans hawaiting, hstill⟩
  · intro command hcommand
    exact Session.execute_of_ne_empty hcommand rfl

/-- A line that names two files is none that the console keeps, so it is the program. -/
theorem load_of_two_files_awaited :
    let s := Session.initial 5
    let filter : Log.Filter := ⟨[], none⟩
    let lines := ["set code", "", "load a b"].map InputLine.entered
    ∃ loaded : Session, phaseAfter bare (.conversing filter s) lines = .conversing filter loaded ∧
      loaded.engine = .loaded 5 "load a b" ∧
      loaded.execute "run" = Session.settle (loaded.dispatch "run") := by
  intro s filter lines
  have hset : (InputLine.entered "set code").stripped? = some "set code" := by decide +kernel
  have hblanks : ∀ line ∈ [InputLine.entered ""], line.stripped? = some "" := by decide +kernel
  have hline : (InputLine.entered "load a b").stripped? = some "load a b" := by decide +kernel
  obtain ⟨-, hloaded, -, -, hcommand⟩ :=
    @awaited_line_loaded_iff bare filter s _ _ _ _ rfl hset hblanks hline (by decide)
  exact ⟨_, hloaded.2 (by decide +kernel), rfl, hcommand "run" (by decide)⟩

/-- A program is awaited, the session would take `quit` for one and fail when it is run, but the
console leaves without a failure. -/
theorem quit_while_awaiting :
    let s := Session.initial Config.standard.depthLimit
    let t := (s.execute "set code").state
    let filter := configuredFilter bare .standard
    (phaseAfter bare (start bare []).2 [.entered "set code"] = .conversing filter t ∧
        t.awaitingSource) ∧
      phaseAfter bare (start bare []).2 [.entered "set code", .entered "quit"] = .ended true ∧
      (run bare [] (InputLine.typed ["set code", "quit", "run"])).success = true ∧
      (t.execute "quit").state.engine.program? = some (.ofSource "quit") ∧
      ((t.execute "quit").state.execute "run").error? =
        some (.program (.malformed 0 "quit" .missingName)) := by
  intro s t filter
  have hconfig : readConfig bare (.ofArguments []) = .ok .standard := rfl
  have hset : (InputLine.entered "set code").stripped? = some "set code" := by decide +kernel
  have hline : (InputLine.entered "quit").stripped? = some "quit" := by decide +kernel
  obtain ⟨opening, -, hstart⟩ := start_conversing hconfig rfl rfl
  obtain ⟨hpending, hawaiting⟩ := feed_setCode bare filter (s := s) rfl hset
  refine ⟨⟨?_, hawaiting⟩, ?_, by decide +kernel, rfl, by decide +kernel⟩
  · rw [hstart, phaseAfter_cons, hpending, phaseAfter_nil]
  · rw [hstart, phaseAfter_cons, hpending, phaseAfter_cons, feed_of_quit (.inl rfl) hline,
      phaseAfter_nil]

end CommandLine

end LineDebugger
