import LineDebugger.Proofs.Engine.Control
import LineDebugger.Proofs.Text.Words

/-!
# What a program sees of its lines

Three readers look at the text of a program. The function table is made from the first two words of
every line, blocks are made of the lines that start with four spaces, and a step reads the words of
its line and asks for no more than three of them. So all that is ever seen of a line is its
*outline*, whether it is a body line and what its first three words are. The text of a line is kept
for one purpose only: an error about a line that cannot be read quotes it.

Each reader is written here as a function of the outlines, from which it follows that two programs
with the same outlines cannot be told apart by any of them.

Many changes to a text leave the outlines as they are: a carriage return at the end of every line,
blanks at the end of a line with words, anything at all behind the third word, and empty lines. What
is put at the end of a line could only change whether it is a body line if the line were made of
spaces so far, and shorter than four.

## Main definitions

* `outline`, `SameOutline` — what is seen of a line; texts that look the same
* `Program.outlines` — what is seen of a program
* `Relaid` — the lines of a text in another layout
* `withReturns` — a text with a carriage return before every newline

## Main results

* `Program.read_eq`, `Program.isBody_eq`, `Program.blockEnd_eq` — the readers see outlines
* `Program.functions_eq_of_outlines` — so does the function table
* `Relaid.sameOutline`, `sameOutline_withReturns` — changes that leave the outlines as they are
-/

namespace LineDebugger

/-- What a program sees of a line: whether it is a body line, and its first three words. -/
def outline (line : String) : Bool × List String := (isBodyLine line, (Text.words line).take 3)

/-- The two texts have the same number of lines that are not empty, and each of them has the
outline of the other text's line in the same place. -/
def SameOutline (a b : String) : Prop :=
  (sourceLines a).map outline = (sourceLines b).map outline

instance (a b : String) : Decidable (SameOutline a b) := inferInstanceAs (Decidable (_ = _))

/-! ### The readers -/

/-- Words behind the third do not matter. -/
theorem Line.ofWords_take (index : Nat) (words : List String) :
    ofWords index (words.take 3) = ofWords index words := by
  rcases words with _ | ⟨keyword, _ | ⟨name, _ | ⟨word, more⟩⟩⟩ <;> rfl

namespace Program

variable {p q : Program}

/-- What is seen of a program. -/
def outlines (p : Program) : List (Bool × List String) := p.lines.toList.map outline

theorem size_eq (p : Program) : p.size = p.outlines.length := by
  simp [size, outlines]

theorem isBody_eq (p : Program) (index : Nat) :
    p.isBody index = p.outlines[index]?.any Prod.fst := by
  rw [isBody, outlines, List.getElem?_map, Option.any_map, Array.getElem?_toList]
  rfl

theorem blockEnd_eq (p : Program) (start : Nat) :
    p.blockEnd start = start + ((p.outlines.drop start).takeWhile Prod.fst).length := by
  rw [blockEnd, outlines, ← List.map_drop, List.takeWhile_map, List.length_map]
  rfl

/-- The words of a line that are seen. No line has no words. -/
def wordsAt (p : Program) (index : Nat) : List String := p.outlines[index]?.elim [] Prod.snd

/-- Reading a line asks for its outline, and for its text if it cannot be read. -/
theorem read_eq (p : Program) (index : Nat) :
    p.read index = (Line.ofWords index (p.wordsAt index)).mapError
      (.malformed index (p.lines[index]?.getD "")) := by
  have hwords : Line.ofWords index (Text.words (p.lines[index]?.getD "")) =
      Line.ofWords index (p.wordsAt index) := by
    rw [wordsAt, outlines, List.getElem?_map, Array.getElem?_toList]
    cases p.lines[index]? with
    | none => rfl
    | some line => exact (Line.ofWords_take index _).symm
  rw [read, Line.parse, hwords]
  cases Line.ofWords index (p.wordsAt index) <;> rfl

/-- A line that can be read reads the same in every program with these outlines. -/
theorem read_eq_ok_iff (h : p.outlines = q.outlines) {index : Nat} {line : Line} :
    p.read index = .ok line ↔ q.read index = .ok line := by
  have hwords : p.wordsAt index = q.wordsAt index := by rw [wordsAt, wordsAt, h]
  rw [read_eq, read_eq, hwords]
  cases Line.ofWords index (q.wordsAt index) <;> simp [Except.mapError]

/-- If a line cannot be read, the same is wrong with it in every program with these outlines. -/
theorem exists_malformed_of_read (h : p.outlines = q.outlines) {index : Nat}
    {error : ProgramError} (hl : p.read index = .error error) :
    ∃ text text' fault, fault.ofReading ∧ error = .malformed index text fault ∧
      q.read index = .error (.malformed index text' fault) := by
  have hwords : p.wordsAt index = q.wordsAt index := by rw [wordsAt, wordsAt, h]
  rw [read_eq, hwords] at hl
  rw [read_eq]
  cases hfault : Line.ofWords index (q.wordsAt index) with
  | ok line =>
    rw [hfault] at hl
    cases hl
  | error fault =>
    rw [hfault] at hl
    exact ⟨_, _, fault, Line.ofReading_of_ofWords hfault, (Except.error.inj hl).symm, rfl⟩

theorem functionLine?_eq_of_outlines (h : p.outlines = q.outlines) (name : String) :
    p.functionLine? name = q.functionLine? name := by
  apply Option.ext
  intro header
  simp only [functionLine?_eq_some_iff, ne_eq, read_eq_ok_iff h]

/-- The function table is made from the outlines. -/
theorem functions_eq_of_outlines (h : p.outlines = q.outlines) : p.functions = q.functions :=
  Std.ExtTreeMap.ext_getElem? (functionLine?_eq_of_outlines h)

end Program

/-! ### Lines in another layout -/

/-- What comes behind some characters does not make them begin with more spaces, unless they are
all spaces, and more of these follow. -/
theorem isPrefixOf_replicate_append {cs more : List Char} (n : Nat)
    (h : (∃ c ∈ cs, c ≠ ' ') ∨ more.head? ≠ some ' ') :
    (List.replicate n ' ').isPrefixOf (cs ++ more) = (List.replicate n ' ').isPrefixOf cs := by
  induction n generalizing cs with
  | zero => simp
  | succ n ih =>
    rw [List.replicate_succ]
    rcases cs with _ | ⟨c, cs⟩
    · rcases more with _ | ⟨d, more⟩
      · rfl
      · have hd : (' ' == d) = false := by
          rw [beq_eq_false_iff_ne]
          rintro rfl
          simp at h
        rw [List.nil_append, List.isPrefixOf_cons_cons, hd]
        rfl
    · rw [List.cons_append, List.isPrefixOf_cons_cons, List.isPrefixOf_cons_cons]
      by_cases hc : c = ' '
      · rw [ih]
        simpa [hc] using h
      · rw [beq_eq_false_iff_ne.2 (Ne.symm hc)]
        rfl

theorem isBodyLine_append {line more : String}
    (h : Text.words line ≠ [] ∨ more.toList.head? ≠ some ' ') :
    isBodyLine (line ++ more) = isBodyLine line := by
  rw [isBodyLine, isBodyLine, String.toList_append, isPrefixOf_replicate_append]
  refine h.imp_left fun hwords => ?_
  rw [Text.words, ne_eq, Text.runs_eq_nil_iff] at hwords
  push Not at hwords
  obtain ⟨c, hc, hblank⟩ := hwords
  refine ⟨c, hc, ?_⟩
  rintro rfl
  exact hblank rfl

/-- A carriage return at the end of a line is not seen. -/
theorem outline_append_return (line : String) : outline (line ++ "\r") = outline line := by
  rw [outline, outline, isBodyLine_append (.inr (by decide)), Text.words, Text.words,
    Text.runs_append_of_cut (by decide)]

/-- Neither are blanks at the end of a line with words. -/
theorem outline_append_blanks {line blanks : String} (hwords : Text.words line ≠ [])
    (hblank : Text.isAllBlank blanks) : outline (line ++ blanks) = outline line := by
  rw [outline, outline, isBodyLine_append (.inl hwords), Text.words, Text.words,
    Text.runs_append_of_cut hblank]

/-- Neither is what stands apart from three words and behind them. -/
theorem outline_append {line more : String} (hwords : 3 ≤ (Text.words line).length)
    (hmore : more.toList.head?.all Text.isBlank) : outline (line ++ more) = outline line := by
  have hne : Text.words line ≠ [] := List.ne_nil_of_length_pos (by omega)
  have hsplit : Text.words (line ++ more) = Text.words line ++ Text.words more :=
    Text.runs_append hmore
  rw [outline, outline, isBodyLine_append (.inl hne), hsplit, List.take_append_of_le_length hwords]

/-- A line in another layout: as it is; with blanks at its end, if it has words; or with something
else behind its third word. -/
inductive Reworded : String → String → Prop
  | same (line : String) : Reworded line line
  | blanks {line blanks : String} (hwords : Text.words line ≠ [])
      (hblank : Text.isAllBlank blanks) : Reworded line (line ++ blanks)
  | words {line more more' : String} (hwords : 3 ≤ (Text.words line).length)
      (hmore : more.toList.head?.all Text.isBlank)
      (hmore' : more'.toList.head?.all Text.isBlank) : Reworded (line ++ more) (line ++ more')

/-- The lines of a text in another layout: each of them in another layout, with empty lines put in
anywhere. -/
inductive Relaid : List String → List String → Prop
  | nil : Relaid [] []
  | line {line line' : String} {lines lines' : List String} (h : Reworded line line')
      (hrest : Relaid lines lines') : Relaid (line :: lines) (line' :: lines')
  | empty {lines lines' : List String} (hrest : Relaid lines lines') : Relaid lines ("" :: lines')

theorem Reworded.outline_eq {line line' : String} (h : Reworded line line') :
    outline line = outline line' := by
  cases h with
  | same => rfl
  | blanks hwords hblank => rw [outline_append_blanks hwords hblank]
  | words hwords hmore hmore' => rw [outline_append hwords hmore, outline_append hwords hmore']

/-- An empty line stays empty, and no other becomes empty. -/
theorem Reworded.eq_empty_iff {line line' : String} (h : Reworded line line') :
    line = "" ↔ line' = "" := by
  have hline : ∀ {line : String}, Text.words line ≠ [] → line ≠ "" := by
    rintro line hwords rfl
    exact hwords rfl
  have hempty : ∀ {line more : String}, Text.words line ≠ [] → line ++ more ≠ "" := by
    intro line more hwords heq
    exact hline hwords (String.append_eq_empty_iff.1 heq).1
  cases h with
  | same => rfl
  | blanks hwords hblank => exact iff_of_false (hline hwords) (hempty hwords)
  | words hwords hmore hmore' =>
    have hne := List.ne_nil_of_length_pos (Nat.lt_of_lt_of_le (by decide) hwords)
    exact iff_of_false (hempty hne) (hempty hne)

/-- Lines that are made of the same outlines make texts of the same outline. -/
theorem sameOutline_ofPieces {lines lines' : List String} (h : ∀ line ∈ lines, '\n' ∉ line.toList)
    (h' : ∀ line ∈ lines', '\n' ∉ line.toList)
    (hlines : (lines.filter (· != "")).map outline = (lines'.filter (· != "")).map outline) :
    SameOutline (Text.ofPieces lines) (Text.ofPieces lines') := by
  rwa [SameOutline, sourceLines, sourceLines, Text.runs_ofPieces h, Text.runs_ofPieces h']

/-- A text in another layout has the same outline. -/
theorem Relaid.sameOutline {lines lines' : List String} (h : Relaid lines lines')
    (hlines : ∀ line ∈ lines, '\n' ∉ line.toList) (hlines' : ∀ line ∈ lines', '\n' ∉ line.toList) :
    SameOutline (Text.ofPieces lines) (Text.ofPieces lines') := by
  refine sameOutline_ofPieces hlines hlines' ?_
  clear hlines hlines'
  induction h with
  | nil => rfl
  | @line line line' lines lines' hline hrest ih =>
    by_cases hempty : line = ""
    · simpa [hempty, hline.eq_empty_iff.1 hempty] using ih
    · have hempty' : line' ≠ "" := fun heq => hempty (hline.eq_empty_iff.2 heq)
      simp [hempty, hempty', hline.outline_eq, ih]
  | empty hrest ih => simpa using ih

/-- The text with a carriage return before every newline. -/
def withReturns (text : String) : String := "\r\n".intercalate (Text.pieces text)

theorem intercalate_return_newline (lines : List String) (last : String) :
    "\r\n".intercalate (lines ++ [last]) = Text.ofPieces (lines.map (· ++ "\r") ++ [last]) := by
  induction lines with
  | nil => simp [Text.ofPieces]
  | cons line lines ih =>
    have hne : ∀ lines : List String, lines ++ [last] ≠ [] := by simp
    obtain ⟨next, others, hnext⟩ := List.exists_cons_of_ne_nil (hne lines)
    obtain ⟨next', others', hnext'⟩ :=
      List.exists_cons_of_ne_nil (hne (lines.map (· ++ "\r")))
    have hsplit : line ++ "\r\n" = line ++ "\r" ++ "\n" := by
      rw [String.append_assoc]
      rfl
    rw [List.cons_append, hnext, String.intercalate_cons_cons, ← hnext, ih, Text.ofPieces,
      Text.ofPieces, List.map_cons, List.cons_append, hnext', String.intercalate_cons_cons, hsplit]

/-- Carriage returns before the newlines of a text without empty lines are not seen. -/
theorem sameOutline_withReturns {text : String} (h : "" ∉ (Text.pieces text).dropLast) :
    SameOutline text (withReturns text) := by
  have hpieces : Text.pieces text ≠ [] := by
    rw [Text.pieces_eq, ne_eq, List.map_eq_nil_iff]
    exact List.splitOn_ne_nil _ _
  obtain ⟨lines, last, hsplit⟩ :
      ∃ lines last, Text.pieces text = lines ++ [last] :=
    ⟨_, _, (List.dropLast_concat_getLast hpieces).symm⟩
  have hnewline : ∀ line ∈ lines ++ [last], '\n' ∉ line.toList := by
    intro line hline
    exact Text.newline_not_mem_of_mem_pieces (hsplit ▸ hline)
  rw [hsplit, List.dropLast_concat] at h
  rw [withReturns, hsplit, intercalate_return_newline, ← Text.ofPieces_pieces text, hsplit]
  refine sameOutline_ofPieces hnewline ?_ ?_
  · intro line hline
    rw [List.mem_append, List.mem_map] at hline
    rcases hline with ⟨line, hmem, rfl⟩ | hlast
    · simpa using hnewline line (List.mem_append_left _ hmem)
    · exact hnewline line (List.mem_append_right _ hlast)
  · have hfilter : lines.filter (· != "") = lines := by
      rw [List.filter_eq_self]
      intro line hline
      rw [bne_iff_ne]
      rintro rfl
      exact h hline
    have hfilter' : (lines.map (· ++ "\r")).filter (· != "") = lines.map (· ++ "\r") := by
      rw [List.filter_eq_self]
      intro line hline
      obtain ⟨line, -, rfl⟩ := List.mem_map.1 hline
      simp
    rw [List.filter_append, List.filter_append, hfilter, hfilter', List.map_append, List.map_append,
      List.map_map]
    congr 1
    exact List.map_congr_left fun line _ => (outline_append_return line).symm

end LineDebugger
