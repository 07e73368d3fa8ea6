import LineDebugger.Program.Line
import LineDebugger.Proofs.Text.Numeral
import LineDebugger.Proofs.Text.Runs

/-!
# The grammar of a line

What a line asks for is settled by its first words, and a line that asks for nothing has something
wrong with it. Both are written down here as rules, one for each form that a line can have and one
for each thing that can be wrong. Of the things that can be wrong, only the first is reported. So
a rule for a fault says that everything that is looked at before it is in order: there are two words
before the keyword is doubted, and the keyword is that of an operation before the operand is.

No row of words is left without a rule, and no rule contradicts what is read. With that, nothing has
to be shown in the other direction. If a line is read, then some rule fits its words, and the rule
says what is read.

## Main definitions

* `Line.Derives` — the words of a line ask for this
* `Line.FirstFault` — the first thing that is wrong with the words of a line

## Main results

* `Line.derives_or_firstFault` — every row of words asks for something or has a first fault
* `Line.parse_follows_grammar` — lines are read by these rules
-/

namespace LineDebugger

namespace Line

/-- The words of the line with this index ask for this. -/
inductive Derives (index : Nat) : List String → Line → Prop
  | definition (name : String) (more : List String) :
      Derives index ("def" :: name :: more) (.definition name)
  | call (name : String) (more : List String) : Derives index ("call" :: name :: more) (.call name)
  | plain (op : Operation) (name : String) :
      Derives index [op.keyword, name] (.statement ⟨op, name, none, index⟩)
  | withOperand (op : Operation) (name : String) {word : String} {value : Int64}
      (more : List String) (h : Numeral.Denotes word.toList value.toInt) :
      Derives index (op.keyword :: name :: word :: more) (.statement ⟨op, name, some value, index⟩)

/-- The first thing that is wrong with the words of a line. -/
inductive FirstFault : List String → Malformation → Prop
  | emptyStatement : FirstFault [] .emptyStatement
  | missingName (word : String) : FirstFault [word] .missingName
  | unknownOperation {keyword : String} (name : String) (more : List String)
      (hdef : keyword ≠ "def") (hcall : keyword ≠ "call")
      (hop : ∀ op : Operation, keyword ≠ op.keyword) :
      FirstFault (keyword :: name :: more) (.unknownOperation keyword)
  | notAnInteger (op : Operation) (name : String) {word : String} (more : List String)
      (h : ∀ value : Int64, ¬Numeral.Denotes word.toList value.toInt) :
      FirstFault (op.keyword :: name :: word :: more) (.notAnInteger word)

variable {index : Nat} {ws : List String} {line : Line} {fault : Malformation}

/-- Every row of words asks for something or has a first fault. -/
theorem derives_or_firstFault (index : Nat) (ws : List String) :
    (∃ line, Derives index ws line) ∨ ∃ fault, FirstFault ws fault := by
  rcases ws with _ | ⟨keyword, _ | ⟨name, more⟩⟩
  · exact .inr ⟨_, .emptyStatement⟩
  · exact .inr ⟨_, .missingName keyword⟩
  · by_cases hdef : keyword = "def"
    · subst hdef
      exact .inl ⟨_, .definition name more⟩
    by_cases hcall : keyword = "call"
    · subst hcall
      exact .inl ⟨_, .call name more⟩
    by_cases hop : ∃ op : Operation, keyword = op.keyword
    · obtain ⟨op, rfl⟩ := hop
      rcases more with _ | ⟨word, more⟩
      · exact .inl ⟨_, .plain op name⟩
      · by_cases hvalue : ∃ value : Int64, Numeral.Denotes word.toList value.toInt
        · obtain ⟨value, h⟩ := hvalue
          exact .inl ⟨_, .withOperand op name more h⟩
        · exact .inr ⟨_, .notAnInteger op name more (not_exists.1 hvalue)⟩
    · exact .inr ⟨_, .unknownOperation name more hdef hcall (not_exists.1 hop)⟩

/-- The word of an operation begins neither a header nor a call. -/
theorem keyword_ne (op : Operation) :
    op.keyword ≠ definitionKeyword ∧ op.keyword ≠ callKeyword := by
  cases op <;> decide

/-- What the words of a line ask for is read. -/
theorem Derives.ofWords_eq (h : Derives index ws line) : ofWords index ws = .ok line := by
  cases h with
  | definition name more =>
    rw [ofWords]
    exact if_pos rfl
  | call name more =>
    rw [ofWords, if_neg (show "call" ≠ definitionKeyword by decide)]
    exact if_pos rfl
  | plain op name =>
    rw [ofWords, if_neg (keyword_ne op).1, if_neg (keyword_ne op).2]
    simp
  | withOperand op name more h =>
    rw [ofWords, if_neg (keyword_ne op).1, if_neg (keyword_ne op).2]
    simp [Numeral.integer?_eq_some_iff.2 h]

/-- The first fault is reported. -/
theorem FirstFault.ofWords_eq (h : FirstFault ws fault) : ofWords index ws = .error fault := by
  cases h with
  | emptyStatement => rfl
  | missingName word => rfl
  | @unknownOperation keyword name more hdef hcall hop =>
    have hnone : Operation.ofKeyword? keyword = none := by
      rw [Option.eq_none_iff_forall_ne_some]
      intro op hsome
      exact hop op (Operation.keyword_of_ofKeyword?_eq_some hsome).symm
    have hdef : keyword ≠ definitionKeyword := hdef
    have hcall : keyword ≠ callKeyword := hcall
    rw [ofWords, if_neg hdef, if_neg hcall, hnone]
  | @notAnInteger op name word more h =>
    have hnone : Numeral.integer? word = none := by
      rw [Option.eq_none_iff_forall_ne_some]
      intro value hsome
      exact h value (Numeral.integer?_eq_some_iff.1 hsome)
    rw [ofWords, if_neg (keyword_ne op).1, if_neg (keyword_ne op).2]
    simp [hnone]

/-- Words are read as what they ask for. -/
theorem ofWords_eq_ok_iff : ofWords index ws = .ok line ↔ Derives index ws line := by
  constructor
  · intro hread
    rcases derives_or_firstFault index ws with ⟨other, h⟩ | ⟨fault, h⟩
    · rw [h.ofWords_eq] at hread
      exact Except.ok.inj hread ▸ h
    · rw [h.ofWords_eq] at hread
      cases hread
  · exact Derives.ofWords_eq

/-- Words that ask for nothing are refused for their first fault. -/
theorem ofWords_eq_error_iff : ofWords index ws = .error fault ↔ FirstFault ws fault := by
  constructor
  · intro hread
    rcases derives_or_firstFault index ws with ⟨line, h⟩ | ⟨other, h⟩
    · rw [h.ofWords_eq] at hread
      cases hread
    · rw [h.ofWords_eq] at hread
      exact Except.error.inj hread ▸ h
  · exact FirstFault.ofWords_eq

theorem parse_eq_ok_iff {text : String} :
    parse text index = .ok line ↔ Derives index (Text.words text) line := by
  rw [← ofWords_eq_ok_iff, parse]
  split
  · next hread => rw [hread, Except.ok.injEq, Except.ok.injEq]
  · next hread => simp [hread]

theorem parse_eq_error_iff {text : String} {error : ProgramError} :
    parse text index = .error error ↔
      ∃ fault, error = .malformed index text fault ∧ FirstFault (Text.words text) fault := by
  simp only [← @ofWords_eq_error_iff index, parse]
  split
  · next hread => simp [hread]
  · next fault hread => simp [hread, eq_comm]

/-- **Lines are read by the grammar.** The words of a text are its maximal runs without blanks, and
there is one row of them. A line is read exactly if its words derive what is read. Any other line is
refused as malformed, with its whole text, for the first fault of its words. -/
theorem parse_follows_grammar (text : String) (index : Nat) :
    ∃ ws, (∀ found, Text.HasRuns Text.isBlank text.toList found ↔ found = ws) ∧
      (∀ line, parse text index = .ok line ↔ Derives index ws line) ∧
        ∀ error, parse text index = .error error ↔
          ∃ fault, error = .malformed index text fault ∧ FirstFault ws fault := by
  refine ⟨Text.words text, ?_, fun line => parse_eq_ok_iff, fun error => parse_eq_error_iff⟩
  intro found
  rw [← Text.runs_eq_iff]
  exact eq_comm

/-- A keyword is an ordinary name in the second place, and what follows the operand is passed
over. -/
example : parse "  set def\t+007 8" 3 = .ok (.statement ⟨.set, "def", some 7, 3⟩) := rfl

end Line

end LineDebugger
