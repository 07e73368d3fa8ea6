import LineDebugger.Proofs.Program.Grammar
import LineDebugger.Proofs.Text.Rows

/-!
# Statements and their written form

A statement may stand in a program in many ways, with more blanks than needed, with words behind it
that nobody looks at, with a sign or zeros before its operand. One of these ways is its shortest
written form, in which it is logged and put into errors. Reading the written form gives the
statement back, for whatever line it stands on, and so two statements on one line are the same if
they are written in the same way.

One thing is needed for that, that the name of the variable is a single word. Nothing else can go
wrong. The name may be a keyword or a numeral, because it is looked at as the second word only, and
an operand is written without blanks and with the number that it is read with. No name is lost by
this, as a name that has been read is a word already.

## Main definitions

* `Statement.writtenWords` — the words of the written form

## Main results

* `Statement.words_text` — the written form has these words and no others
* `Statement.parse_text_iff` — which statements can be read back
* `Statement.written_form_is_canonical` — every statement that was read is one of them
-/

namespace LineDebugger

/-- The word of an operation is a word. -/
theorem Operation.isRun_keyword (op : Operation) : Text.IsRun Text.isBlank op.keyword := by
  cases op <;> decide

namespace Statement

variable {s t : Statement} {text other : String} {index : Nat}

/-- The words of the written form. -/
def writtenWords (s : Statement) : List String :=
  s.operation.keyword :: s.name :: s.operand.toList.map fun value => toString value.toInt

theorem text_eq_ofWords (s : Statement) : s.text = Text.ofWords s.writtenWords := by
  cases h : s.operand <;> simp [text, writtenWords, h, Text.ofWords, String.append_assoc]

/-- The written form has these words and no others. -/
theorem words_text (h : Text.IsRun Text.isBlank s.name) : Text.words s.text = s.writtenWords := by
  rw [text_eq_ofWords]
  apply Text.words_ofWords
  intro word hword
  rcases List.mem_cons.1 hword with rfl | hword
  · exact s.operation.isRun_keyword
  rcases List.mem_cons.1 hword with rfl | hword
  · exact h
  · obtain ⟨value, -, rfl⟩ := List.mem_map.1 hword
    exact (Numeral.denotes_toString value.toInt).isRun

/-- The written words ask for the statement. -/
theorem derives_writtenWords (s : Statement) :
    Line.Derives s.line s.writtenWords (.statement s) := by
  rcases s with ⟨op, name, _ | value, line⟩
  · exact .plain op name
  · exact .withOperand op name [] (Numeral.denotes_toString value.toInt)

/-- What was read as a statement has the name of its variable as a word, and stands on its line. -/
theorem of_parse (h : Line.parse text index = .ok (.statement s)) :
    Text.IsRun Text.isBlank s.name ∧ s.line = index := by
  have hname : s.name ∈ Text.words text ∧ s.line = index := by
    have hderives := Line.parse_eq_ok_iff.1 h
    generalize Text.words text = ws at hderives
    cases hderives with
    | plain op name => simp
    | withOperand op name more h => simp
  exact ⟨(Text.runs_eq_iff.1 rfl).isRun hname.1, hname.2⟩

/-- A statement can be read back if and only if the name of its variable is a word. -/
theorem parse_text_iff :
    Line.parse s.text s.line = .ok (.statement s) ↔ Text.IsRun Text.isBlank s.name := by
  constructor
  · exact fun h => (of_parse h).1
  · intro h
    rw [Line.parse_eq_ok_iff, words_text h]
    exact s.derives_writtenWords

/-- **The written form is canonical.** A statement is read back from its written form, on its line,
if and only if its variable has a word for a name. Every statement that was read from any text is
such a statement, so its written form is read as this statement again, and it is the only one on
that line with this written form. -/
theorem written_form_is_canonical :
    (∀ s : Statement, Line.parse s.text s.line = .ok (.statement s) ↔
        Text.IsRun Text.isBlank s.name) ∧
      ∀ text index s, Line.parse text index = .ok (.statement s) →
        Text.IsRun Text.isBlank s.name ∧ Line.parse s.text index = .ok (.statement s) ∧
          ∀ other t, Line.parse other index = .ok (.statement t) → (t.text = s.text ↔ t = s) := by
  have hagain : ∀ {text index s}, Line.parse text index = .ok (.statement s) →
      Line.parse s.text index = .ok (.statement s) := by
    intro text index s h
    obtain ⟨hname, rfl⟩ := of_parse h
    exact parse_text_iff.2 hname
  refine ⟨fun s => parse_text_iff, fun text index s h => ⟨(of_parse h).1, hagain h, ?_⟩⟩
  intro other t hother
  constructor
  · intro htext
    have hsame := hagain hother
    rw [htext, hagain h] at hsame
    cases hsame
    rfl
  · rintro rfl
    rfl

end Statement

end LineDebugger
