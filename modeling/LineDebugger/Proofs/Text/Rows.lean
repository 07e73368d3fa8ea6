import LineDebugger.Proofs.Text.Numeral
import LineDebugger.Proofs.Text.Runs

/-!
# Rows of words

What the debugger writes in order to have it read again, be it by a program or by itself, is a row
of words with a single blank between any two of them. Nothing has to be known of the words to write
them, but to read them it has to be known that they are words, with something in them and no blank.
Then cutting the row at its blanks gives the words back, and the blanks between them are the only
white space in the row.

A numeral is a word, whatever the number.

## Main definitions

* `Text.ofWords` — the row of some words

## Main results

* `Numeral.Denotes.isRun` — a numeral is a word
* `Text.words_ofWords` — the words of a row are the ones it was written with
* `Text.eq_space_of_mem_ofWords` — a row has no white space but the blanks between its words
-/

namespace LineDebugger

namespace Numeral

/-- No digit is a blank. -/
theorem isBlank_of_isDigit {c : Char} (h : c.isDigit) : Text.isBlank c = false := by
  rw [Char.isDigit, Bool.and_eq_true, decide_eq_true_eq, decide_eq_true_eq] at h
  have hlow : 48 ≤ c.toNat := h.1
  have hhigh : c.toNat ≤ 57 := h.2
  simp only [Text.isBlank, Bool.or_eq_false_iff, Bool.and_eq_false_iff, decide_eq_false_iff_not,
    beq_eq_false_iff_ne]
  omega

/-- A numeral is a word. -/
theorem Denotes.isRun {text : String} {z : Int} (h : Denotes text.toList z) :
    Text.IsRun Text.isBlank text := by
  obtain ⟨hne, hall⟩ := h.ne_nil_and_isDigit
  constructor
  · rintro rfl
    exact hne rfl
  · intro c hc
    rcases hall c hc with hdigit | rfl | rfl
    · exact isBlank_of_isDigit hdigit
    · rfl
    · rfl

/-- What is written for a number without a sign is a word. -/
theorem isRun_toString (n : Nat) : Text.IsRun Text.isBlank (toString n) :=
  (denotes_toString (n : Int)).isRun

end Numeral

namespace Text

variable {ws : List String}

/-- The row of some words, with a single blank between any two of them. -/
def ofWords (ws : List String) : String := " ".intercalate ws

@[simp] theorem ofWords_singleton (word : String) : ofWords [word] = word :=
  String.intercalate_singleton

theorem toList_ofWords (ws : List String) :
    (ofWords ws).toList = [' '].intercalate (ws.map String.toList) := by
  rw [ofWords, String.toList_intercalate]
  rfl

/-- The words of a row are the ones it was written with. -/
theorem words_ofWords (h : ∀ word ∈ ws, IsRun isBlank word) : words (ofWords ws) = ws := by
  apply runs_eq_iff.2
  rw [toList_ofWords]
  exact hasRuns_intercalate (by decide) h

/-- A row has no white space but the blanks between its words. -/
theorem eq_space_of_mem_ofWords (h : ∀ word ∈ ws, IsRun isBlank word) {c : Char}
    (hc : c ∈ (ofWords ws).toList) (hblank : isBlank c) : c = ' ' := by
  induction ws with
  | nil => cases hc
  | cons word ws ih =>
    obtain ⟨hword, hws⟩ := List.forall_mem_cons.1 h
    have hno : c ∉ word.toList := by
      intro hmem
      rw [hword.not_cut c hmem] at hblank
      cases hblank
    cases ws with
    | nil =>
      rw [ofWords_singleton] at hc
      exact absurd hc hno
    | cons second ws =>
      have hrow : ofWords (word :: second :: ws) = word ++ " " ++ ofWords (second :: ws) :=
        String.intercalate_cons_cons
      rw [hrow, String.toList_append, String.toList_append, List.mem_append, List.mem_append] at hc
      rcases hc with (hfirst | hspace) | hrest
      · exact absurd hfirst hno
      · exact List.mem_singleton.1 hspace
      · exact ih hws hrest

end Text

end LineDebugger
