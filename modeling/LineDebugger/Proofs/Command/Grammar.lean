import LineDebugger.Command
import LineDebugger.Proofs.Text.Numeral
import LineDebugger.Proofs.Text.Runs

/-!
# The grammar of commands

Commands are read in two ways. Most of them are fixed texts, and a text asks for one of these only
if it is the same in every character. The two commands about one breakpoint are read by their words,
so blanks do not matter, and they can be wrong. Both ways are written down here as rules, and the
rules are all there is to reading a command.

The two ways do not meet. A fixed text never begins with the words of a breakpoint command, so it
makes no difference which way is tried first. And once a text begins with these words, it asks for
the command or is refused; it is never passed over as no command at all. What is left, whatever it
says, is no command, and that is no error.

## Main definitions

* `Command.NamesLine` — the words name this line
* `Command.Derives` — the text, with its words, asks for this command
* `Command.LacksLine` — the words are those of a breakpoint command that names no line

## Main results

* `Command.parse_eq_some_iff`, `Command.parse_eq_invalid_iff`, `Command.parse_eq_none_iff` — what a
  text is read as
* `Command.reading_follows_grammar` — commands are read by these rules
-/

namespace LineDebugger

namespace Command

/-- There is one word, and it is a numeral for this line. -/
inductive NamesLine : List String → Nat → Prop
  | numeral {word : String} {line : Nat} (h : Numeral.DenotesNatural word.toList line)
      (hfits : line < 2 ^ 64) : NamesLine [word] line

/-- The text, with these words, asks for this command. -/
inductive Derives : String → List String → Command → Prop
  | setCode (ws : List String) : Derives "set code" ws .setCode
  | run (ws : List String) : Derives "run" ws .run
  | step (ws : List String) : Derives "step" ws .step
  | stepOver (ws : List String) : Derives "step over" ws .stepOver
  | printMemory (ws : List String) : Derives "print mem" ws .printMemory
  | printTrace (ws : List String) : Derives "print trace" ws .printTrace
  | printBreakpoints (ws : List String) : Derives "print breaks" ws .printBreakpoints
  | clearBreakpoints (ws : List String) : Derives "clear breaks" ws .clearBreakpoints
  | addBreakpoint (text : String) {rest : List String} {line : Nat} (h : NamesLine rest line) :
      Derives text ("add" :: "break" :: rest) (.addBreakpoint line)
  | removeBreakpoint (text : String) {rest : List String} {line : Nat} (h : NamesLine rest line) :
      Derives text ("remove" :: "break" :: rest) (.removeBreakpoint line)

/-- The words begin like a command about one breakpoint, and those that follow name no line. -/
inductive LacksLine : List String → Prop
  | addBreakpoint {rest : List String} (h : ∀ line, ¬NamesLine rest line) :
      LacksLine ("add" :: "break" :: rest)
  | removeBreakpoint {rest : List String} (h : ∀ line, ¬NamesLine rest line) :
      LacksLine ("remove" :: "break" :: rest)

variable {text : String} {words : List String} {line : Nat} {c : Command}

/-- A line is read from the words that name it. -/
theorem lineNumber?_eq_some_iff : lineNumber? words = some line ↔ NamesLine words line := by
  constructor
  · intro h
    rw [lineNumber?.eq_def] at h
    split at h
    · obtain ⟨hdenotes, hfits⟩ := Numeral.natural?_eq_some_iff.1 h
      exact .numeral hdenotes hfits
    · cases h
  · rintro ⟨hdenotes, hfits⟩
    exact Numeral.natural?_eq_some_iff.2 ⟨hdenotes, hfits⟩

theorem lineNumber?_eq_none_iff : lineNumber? words = none ↔ ∀ line, ¬NamesLine words line := by
  simp only [Option.eq_none_iff_forall_ne_some, ne_eq, lineNumber?_eq_some_iff]

/-- No command without an argument begins like one about a breakpoint. -/
theorem lookup_eq_none {verb : String} (hwords : Text.words text = verb :: "break" :: words) :
    literals.lookup text = none := by
  have hsecond : ∀ entry ∈ literals, (Text.words entry.1)[1]? ≠ some "break" := by
    decide +kernel
  rw [List.lookup_eq_none_iff]
  intro entry hentry
  rw [bne_iff_ne]
  rintro rfl
  exact hsecond entry hentry (by rw [hwords]; rfl)

/-- A text that is one of the fixed ones asks for its command. -/
theorem derives_of_lookup (h : literals.lookup text = some c) (ws : List String) :
    Derives text ws c := by
  have hall : ∀ entry ∈ literals, Derives entry.1 ws entry.2 := by
    simp only [literals, List.forall_mem_cons]
    exact ⟨.setCode ws, .run ws, .step ws, .stepOver ws, .printMemory ws, .printTrace ws,
      .printBreakpoints ws, .clearBreakpoints ws, fun _ hno => absurd hno List.not_mem_nil⟩
  obtain ⟨before, more, hsplit, -⟩ := List.lookup_eq_some_iff.1 h
  exact hall (text, c) (by simp [hsplit])

/-- What a text asks for is read. -/
theorem Derives.parse_eq (h : Derives text (Text.words text) c) : parse text = .ok (some c) := by
  generalize hwords : Text.words text = ws at h
  cases h with
  | addBreakpoint text h =>
    rw [parse, lookup_eq_none hwords]
    simp only [hwords, withLine, lineNumber?_eq_some_iff.2 h]
  | removeBreakpoint text h =>
    rw [parse, lookup_eq_none hwords]
    simp only [hwords, withLine, lineNumber?_eq_some_iff.2 h]
  | _ => rfl

/-- A breakpoint command that names no line is refused, with the whole text. -/
theorem LacksLine.parse_eq (h : LacksLine (Text.words text)) :
    parse text = .error (.invalidBreakpoint text) := by
  generalize hwords : Text.words text = ws at h
  cases h with
  | addBreakpoint h =>
    rw [parse, lookup_eq_none hwords]
    simp only [hwords, withLine, lineNumber?_eq_none_iff.2 h]
  | removeBreakpoint h =>
    rw [parse, lookup_eq_none hwords]
    simp only [hwords, withLine, lineNumber?_eq_none_iff.2 h]

/-- Words that begin like a command about one breakpoint name a line, or lack one. -/
theorem namesLine_or_not (words : List String) :
    (∃ line, NamesLine words line) ∨ ∀ line, ¬NamesLine words line := by
  rw [← not_exists]
  exact em _

/-- A text that asks for nothing, and is not refused, is no command. -/
theorem parse_eq_none (hno : ∀ c, ¬Derives text (Text.words text) c)
    (hlacks : ¬LacksLine (Text.words text)) : parse text = .ok none := by
  rw [parse]
  split
  · next c hlookup => exact absurd (derives_of_lookup hlookup _) (hno c)
  · split
    · next words hwords =>
      rw [hwords] at hno hlacks
      rcases namesLine_or_not words with ⟨line, h⟩ | h
      · exact absurd (.addBreakpoint text h) (hno _)
      · exact absurd (.addBreakpoint h) hlacks
    · next words hwords =>
      rw [hwords] at hno hlacks
      rcases namesLine_or_not words with ⟨line, h⟩ | h
      · exact absurd (.removeBreakpoint text h) (hno _)
      · exact absurd (.removeBreakpoint h) hlacks
    · rfl

/-- A text asks for a command, or is refused, or is none. -/
theorem derives_or_lacksLine_or_neither (text : String) :
    (∃ c, Derives text (Text.words text) c) ∨ LacksLine (Text.words text) ∨
      (∀ c, ¬Derives text (Text.words text) c) ∧ ¬LacksLine (Text.words text) := by
  by_cases hlacks : LacksLine (Text.words text)
  · exact .inr (.inl hlacks)
  · rcases em (∃ c, Derives text (Text.words text) c) with h | h
    · exact .inl h
    · exact .inr (.inr ⟨not_exists.1 h, hlacks⟩)

/-- A text is read as what it asks for. -/
theorem parse_eq_some_iff : parse text = .ok (some c) ↔ Derives text (Text.words text) c := by
  refine ⟨fun hread => ?_, Derives.parse_eq⟩
  rcases derives_or_lacksLine_or_neither text with ⟨other, h⟩ | h | ⟨hno, hlacks⟩
  · rw [h.parse_eq] at hread
    exact Option.some.inj (Except.ok.inj hread) ▸ h
  · rw [h.parse_eq] at hread
    cases hread
  · rw [parse_eq_none hno hlacks] at hread
    cases hread

/-- A text is refused if it is a breakpoint command that names no line. -/
theorem parse_eq_invalid_iff {error : CommandError} :
    parse text = .error error ↔
      LacksLine (Text.words text) ∧ error = .invalidBreakpoint text := by
  refine ⟨fun hread => ?_, fun h => h.2 ▸ h.1.parse_eq⟩
  rcases derives_or_lacksLine_or_neither text with ⟨other, h⟩ | h | ⟨hno, hlacks⟩
  · rw [h.parse_eq] at hread
    cases hread
  · rw [h.parse_eq] at hread
    exact ⟨h, (Except.error.inj hread).symm⟩
  · rw [parse_eq_none hno hlacks] at hread
    cases hread

/-- All other texts are no commands. -/
theorem parse_eq_none_iff :
    parse text = .ok none ↔
      (∀ c, ¬Derives text (Text.words text) c) ∧ ¬LacksLine (Text.words text) := by
  refine ⟨fun hread => ⟨fun c h => ?_, fun h => ?_⟩, fun h => parse_eq_none h.1 h.2⟩
  · rw [h.parse_eq] at hread
    cases hread
  · rw [h.parse_eq] at hread
    cases hread

/-- **Commands are read by the grammar.** The words of a text are its maximal runs without blanks,
and there is one row of them. A text is read as a command exactly if it asks for this command: it is
the fixed text of the command, or its words are those of a command about one breakpoint, with one
numeral behind them for a line below `2 ^ 64`. A text is refused exactly if its words begin like a
command about one breakpoint but name no line, and the error holds the whole text. Any other text
is no command. -/
theorem reading_follows_grammar (text : String) :
    ∃ ws, (∀ found, Text.HasRuns Text.isBlank text.toList found ↔ found = ws) ∧
      (∀ c, parse text = .ok (some c) ↔ Derives text ws c) ∧
        (∀ error, parse text = .error error ↔
          LacksLine ws ∧ error = .invalidBreakpoint text) ∧
          (parse text = .ok none ↔ (∀ c, ¬Derives text ws c) ∧ ¬LacksLine ws) := by
  refine ⟨Text.words text, ?_, fun c => parse_eq_some_iff, fun error => parse_eq_invalid_iff,
    parse_eq_none_iff⟩
  intro found
  rw [← Text.runs_eq_iff]
  exact eq_comm

/-- Blanks, a sign and zeros in front make no difference to a breakpoint command. -/
example : parse "\tadd break  +007" = .ok (some (.addBreakpoint 7)) := by decide +kernel

end Command

end LineDebugger
