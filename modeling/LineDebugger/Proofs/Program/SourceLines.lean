import LineDebugger.Engine.Basic
import LineDebugger.Proofs.Text.Runs

/-!
# Lines and the text they make

A program is known by its lines, and whatever has to do with a place in it, a breakpoint, a call,
the line of an error or of a variable's last change, counts them. The text that a program came from
is not kept. To have a program again, somebody joins its lines with newlines and loads the result,
and then every number has to mean the same line as before.

It does, because only empty lines are lost in cutting a text, and lines that were cut off a text are
not empty. What decides the argument is that nothing but the newline separates lines. A carriage
return, a blank, and the characters by which Unicode ends a line or a paragraph are characters of
the line they stand in, and stay there; and newlines are no part of any line, so joining two texts
by one puts the lines of the second behind those of the first, and lets no two of them grow
together.

## Main results

* `sourceLines_append` — the lines of two texts with a newline between them
* `sourceLines_ofPieces` — lines that are joined are found again
* `ofPieces_sourceLines` — a text without empty lines is what its lines make when they are joined
* `lines_survive_joining` — all of it, and that a program is the same when it is loaded again
-/

namespace LineDebugger

variable {a b text line : String} {lines : List String}

/-- What is cut off between newlines is not empty and has no newline in it. -/
theorem isRun_newline_iff :
    Text.IsRun (· == '\n') line ↔ line ≠ "" ∧ '\n' ∉ line.toList := by
  constructor
  · rintro ⟨hne, hcut⟩
    refine ⟨hne, fun hmem => ?_⟩
    cases hcut _ hmem
  · rintro ⟨hne, hno⟩
    refine ⟨hne, fun c hc => ?_⟩
    rw [beq_eq_false_iff_ne]
    rintro rfl
    exact hno hc

/-- The lines of two texts with a newline between them are those of the first and those of the
second. -/
theorem sourceLines_append (a b : String) :
    sourceLines (a ++ "\n" ++ b) = sourceLines a ++ sourceLines b := by
  have hnewline : ∀ c ∈ "\n".toList, c == '\n' := List.forall_mem_singleton.2 rfl
  have hhead : ("\n" ++ b).toList.head?.all (· == '\n') := by
    rw [String.toList_append]
    rfl
  rw [String.append_assoc, sourceLines, Text.runs_append hhead,
    Text.runs_append_left_of_cut hnewline]
  rfl

/-- Lines that are joined are found again. -/
theorem sourceLines_ofPieces (h : ∀ line ∈ lines, line ≠ "" ∧ '\n' ∉ line.toList) :
    sourceLines (Text.ofPieces lines) = lines := by
  apply Text.runs_eq_iff.2
  rw [Text.toList_ofPieces]
  exact Text.hasRuns_intercalate (by decide) fun line hline => isRun_newline_iff.2 (h line hline)

/-- A text without empty lines is what its lines make when they are joined. -/
theorem ofPieces_sourceLines (h : "" ∉ Text.pieces text) :
    Text.ofPieces (sourceLines text) = text := by
  have hlines : ∀ line ∈ Text.pieces text, line ≠ "" ∧ '\n' ∉ line.toList := by
    intro line hline
    refine ⟨?_, Text.newline_not_mem_of_mem_pieces hline⟩
    rintro rfl
    exact h hline
  have hcut : sourceLines text = Text.pieces text := by
    rw [← sourceLines_ofPieces hlines, Text.ofPieces_pieces]
  rw [hcut, Text.ofPieces_pieces]

/-- Texts with the same lines are the same program. -/
theorem Program.ofSource_congr (h : sourceLines a = sourceLines b) : ofSource a = ofSource b :=
  congrArg ofLines h

/-- **Lines survive joining.** Cutting a text into lines undoes joining lines with newlines, up to
empty lines. A newline between two texts puts their lines one behind the other. Every line is not
empty and has no newline in it; any lines of this kind are found again when they are joined; and a
text that has no empty lines is what its lines make. A text consists of its lines, in their order,
and of newlines before, between and behind them, so that the lines have every other character of
it. Hence the lines of a text can be joined and cut again, and loading what they make is loading the
text, whatever the engine. -/
theorem lines_survive_joining :
    (∀ a b, sourceLines (a ++ "\n" ++ b) = sourceLines a ++ sourceLines b) ∧
      (∀ text, ∀ line ∈ sourceLines text, line ≠ "" ∧ '\n' ∉ line.toList) ∧
      (∀ lines, (∀ line ∈ lines, line ≠ "" ∧ '\n' ∉ line.toList) →
        sourceLines (Text.ofPieces lines) = lines) ∧
      (∀ text, "" ∉ Text.pieces text → Text.ofPieces (sourceLines text) = text) ∧
      ∀ text,
        Text.HasRuns (· == '\n') text.toList (sourceLines text) ∧
        (sourceLines text).flatMap String.toList = text.toList.filter (· != '\n') ∧
        sourceLines (Text.ofPieces (sourceLines text)) = sourceLines text ∧
        ∀ e : Engine, e.load (Text.ofPieces (sourceLines text)) = e.load text := by
  have hlines : ∀ text, ∀ line ∈ sourceLines text, line ≠ "" ∧ '\n' ∉ line.toList :=
    fun text line hline => isRun_newline_iff.1 (Text.isRun_of_mem_runs hline)
  refine ⟨sourceLines_append, hlines, fun _ => sourceLines_ofPieces, fun _ => ofPieces_sourceLines,
    fun text => ?_⟩
  have hruns : Text.HasRuns (· == '\n') text.toList (sourceLines text) := Text.runs_eq_iff.1 rfl
  have hagain : sourceLines (Text.ofPieces (sourceLines text)) = sourceLines text :=
    sourceLines_ofPieces (hlines text)
  refine ⟨hruns, hruns.flatMap_toList, hagain, fun e => ?_⟩
  rw [Engine.load, Engine.load, Program.ofSource_congr hagain]

/-- A line that ends in a carriage return, one of blanks only, and one in which a line ends by the
rules of Unicode. -/
def unusualLines : List String := ["set a 1\r", "  ", "print\u2028a"]

/-- They are three lines, and what they make is made of them. -/
theorem unusualLines_survive :
    (∀ line ∈ unusualLines, line ≠ "" ∧ '\n' ∉ line.toList) ∧
      sourceLines (Text.ofPieces unusualLines) = unusualLines ∧
      "" ∉ Text.pieces (Text.ofPieces unusualLines) ∧
      Text.ofPieces (sourceLines (Text.ofPieces unusualLines)) = Text.ofPieces unusualLines := by
  obtain ⟨-, -, hfound, hmade, -⟩ := lines_survive_joining
  have hlines : ∀ line ∈ unusualLines, line ≠ "" ∧ '\n' ∉ line.toList := by decide +kernel
  have hfull : "" ∉ Text.pieces (Text.ofPieces unusualLines) := by
    rw [Text.pieces_eq]
    decide +kernel
  exact ⟨hlines, hfound _ hlines, hfull, hmade _ hfull⟩

end LineDebugger
