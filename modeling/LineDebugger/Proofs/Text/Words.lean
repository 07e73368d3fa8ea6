import LineDebugger.Text.Words
import Mathlib.Data.List.TakeWhile

/-!
# Runs of a text that is put together

A text is cut into runs wherever a separator stands, so two texts one behind the other have the
runs of both, unless the last run of the first and the first run of the second grow together. They
do not if the second text starts with a separator, or is empty.

## Main definitions

* `Text.pieces` — what stands before, between and after the newlines of a text
* `Text.ofPieces` — the text of some pieces

## Main results

* `Text.runs_append` — the runs of two texts, one behind the other
* `Text.runs_eq_nil_iff` — a text without runs is made of separators
* `Text.isAllBlank_iff` — a blank text has nothing between its ends
* `Text.runs_ofPieces` — the runs between newlines are the pieces that are not empty
-/

namespace LineDebugger.Text

variable {cut : Char → Bool} {text more : String} {lines : List String}

theorem filter_splitOnP_eq_nil_iff (cs : List Char) :
    (cs.splitOnP cut).filter (!·.isEmpty) = [] ↔ ∀ c ∈ cs, cut c := by
  induction cs with
  | nil => simp
  | cons c cs ih =>
    rw [List.splitOnP_cons_eq_if_modifyHead, List.forall_mem_cons]
    by_cases hc : cut c
    · simpa [hc] using ih
    · obtain ⟨first, others, hsplit⟩ := List.exists_cons_of_ne_nil (List.splitOnP_ne_nil cut cs)
      simp [hc, hsplit]

/-- A text has no runs exactly if it is made of separators. -/
theorem runs_eq_nil_iff : runs cut text = [] ↔ ∀ c ∈ text.toList, cut c := by
  rw [runs, List.map_eq_nil_iff, filter_splitOnP_eq_nil_iff]

/-- A text that starts with a separator, or is empty, does not touch the runs before it. -/
theorem runs_append (h : more.toList.head?.all cut) :
    runs cut (text ++ more) = runs cut text ++ runs cut more := by
  rw [runs, runs, runs, String.toList_append]
  rcases hmore : more.toList with _ | ⟨c, cs⟩
  · simp
  · have hc : cut c := by
      rw [hmore] at h
      exact h
    have hfirst : (c :: cs).splitOnP cut = [] :: cs.splitOnP cut := by
      rw [List.splitOnP_cons_eq_if_modifyHead, if_pos hc]
    rw [hfirst, List.splitOnP_append_cons _ _ hc]
    simp

/-- Separators at the end of a text add no run to it. -/
theorem runs_append_of_cut (h : more.toList.all cut) :
    runs cut (text ++ more) = runs cut text := by
  have hhead : more.toList.head?.all cut := by
    rcases hmore : more.toList with _ | ⟨c, cs⟩
    · rfl
    · rw [hmore, List.all_cons, Bool.and_eq_true] at h
      exact h.1
  rw [runs_append hhead, runs_eq_nil_iff.2 (List.all_eq_true.1 h), List.append_nil]

/-! ### Blanks -/

/-- A text is blank if nothing is left of it without the blanks at its ends. -/
theorem isAllBlank_iff (text : String) : isAllBlank text ↔ trim text = "" := by
  have hempty : trim text = "" ↔ ∀ c ∈ text.toList.dropWhile isBlank, isBlank c := by
    rw [trim, ← String.toList_inj, String.toList_ofList]
    show _ = [] ↔ _
    rw [List.reverse_eq_nil_iff, List.dropWhile_eq_nil_iff]
    simp only [List.mem_reverse]
  rw [hempty, isAllBlank, List.all_eq_true]
  constructor
  · intro h c hc
    exact h c ((List.dropWhile_suffix _).subset hc)
  · intro h
    rw [← List.dropWhile_eq_nil_iff]
    by_contra hne
    have hhead := List.head_dropWhile_not isBlank hne
    rw [h _ (List.head_mem hne)] at hhead
    cases hhead

/-! ### Pieces -/

/-- What stands before, between and after the newlines of a text. -/
def pieces (text : String) : List String := (text.split '\n').toList.map String.Slice.copy

/-- The pieces with newlines between them. -/
def ofPieces (pieces : List String) : String := "\n".intercalate pieces

theorem pieces_eq (text : String) : pieces text = (text.toList.splitOn '\n').map String.ofList :=
  String.toList_split_char

theorem toList_ofPieces (lines : List String) :
    (ofPieces lines).toList = ['\n'].intercalate (lines.map String.toList) := by
  rw [ofPieces, String.toList_intercalate]
  rfl

/-- A text is put together from its pieces. -/
theorem ofPieces_pieces (text : String) : ofPieces (pieces text) = text := by
  apply String.toList_inj.1
  rw [toList_ofPieces, pieces_eq, List.map_map]
  have hid : String.toList ∘ String.ofList = id := funext fun cs => String.toList_ofList
  rw [hid, List.map_id, List.intercalate_splitOn]

theorem not_mem_of_mem_splitOn {α : Type} [BEq α] [LawfulBEq α] {a : α} {l piece : List α}
    (h : piece ∈ l.splitOn a) : a ∉ piece := by
  induction l generalizing piece with
  | nil =>
    rw [List.splitOn_nil, List.mem_singleton] at h
    simp [h]
  | cons c l ih =>
    obtain ⟨first, others, hsplit⟩ := List.exists_cons_of_ne_nil (List.splitOn_ne_nil a l)
    rw [hsplit] at ih
    rw [List.splitOn_cons_eq_if_modifyHead, hsplit] at h
    by_cases hc : c == a
    · rw [if_pos hc, List.mem_cons] at h
      rcases h with rfl | h
      · simp
      · exact ih h
    · rw [if_neg hc, List.modifyHead_cons, List.mem_cons] at h
      rcases h with rfl | h
      · rw [List.mem_cons, not_or]
        exact ⟨fun heq => hc (beq_iff_eq.2 heq.symm), ih (by simp)⟩
      · exact ih (by simp [h])

/-- No piece holds a newline. -/
theorem newline_not_mem_of_mem_pieces {piece : String} (h : piece ∈ pieces text) :
    '\n' ∉ piece.toList := by
  rw [pieces_eq, List.mem_map] at h
  obtain ⟨cs, hcs, rfl⟩ := h
  rw [String.toList_ofList]
  exact not_mem_of_mem_splitOn hcs

/-- The runs between newlines are the pieces that are not empty. -/
theorem runs_ofPieces (h : ∀ line ∈ lines, '\n' ∉ line.toList) :
    runs (· == '\n') (ofPieces lines) = lines.filter (· != "") := by
  by_cases hne : lines = []
  · subst hne
    rfl
  · have hsplit : (ofPieces lines).toList.splitOnP (· == '\n') = lines.map String.toList := by
      rw [← List.splitOn_eq_splitOnP, toList_ofPieces]
      refine List.splitOn_intercalate '\n' ?_ (by simpa using hne)
      rintro _ hcs
      obtain ⟨line, hline, rfl⟩ := List.mem_map.1 hcs
      exact h line hline
    have hempty : ((!·.isEmpty) ∘ String.toList) = (fun line : String => line != "") := by
      funext line
      rw [Function.comp_apply, Bool.eq_iff_iff]
      simp
    rw [runs, hsplit, List.filter_map, List.map_map, hempty]
    simp [Function.comp_def]

end LineDebugger.Text
