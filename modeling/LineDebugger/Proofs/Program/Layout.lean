import LineDebugger.Program.Basic
import Mathlib.Data.List.Induction

/-!
# The layout of a program

Two readings of a program decide where control can go: which lines are body lines, and which lines
are headers. The first gives every header a block, the stretch of body lines behind it, and all
that is ever needed about blocks follows from two equations of `Program.blockEnd`: it moves on over
a body line and stays where none stands.

The second gives the function table. The table is built by going over all lines once, so it is
characterised here from the other side: a name leads to a line exactly when that line reads as a
definition of the name and no later line does.

## Main definitions

* `Program.read` — what the line at an index asks for

## Main results

* `Program.blockEnd_eq_of_le` — every place inside a block, or at its end, has the same end
* `Program.functionLine?_eq_some_iff` — a function is defined by the last line that reads so
-/

namespace LineDebugger

namespace Program

variable {p : Program}

/-- What the line at an index asks for. A line that does not exist reads as an empty one. -/
def read (p : Program) (index : Nat) : Except ProgramError Line :=
  Line.parse (p.lines[index]?.getD "") index

theorem read_of_getElem? {index : Nat} {text : String} (h : p.lines[index]? = some text) :
    p.read index = Line.parse text index := by
  rw [read, h, Option.getD_some]

/-- Nothing but an existing line can be read. -/
theorem lt_size_of_read {index : Nat} {line : Line} (h : p.read index = .ok line) :
    index < p.size := by
  by_contra hlt
  rw [read, Array.getElem?_eq_none (Nat.not_lt.1 hlt)] at h
  have hempty : Line.parse "" index = .error (.malformed index "" .emptyStatement) := rfl
  rw [Option.getD_none, hempty] at h
  cases h

/-! ### Blocks -/

theorem isBody_iff {index : Nat} :
    p.isBody index ↔ ∃ h : index < p.lines.toList.length, isBodyLine p.lines.toList[index] := by
  simp [isBody, Option.any_eq_true_iff_get]

/-- A block goes on over a body line. -/
theorem blockEnd_of_isBody {start : Nat} (h : p.isBody start) :
    p.blockEnd start = p.blockEnd (start + 1) := by
  obtain ⟨hlt, hbody⟩ := isBody_iff.1 h
  rw [blockEnd, blockEnd, List.drop_eq_getElem_cons hlt, List.takeWhile_cons_of_pos hbody,
    List.length_cons]
  omega

/-- A block ends where no body line stands. -/
theorem blockEnd_of_not_isBody {start : Nat} (h : ¬p.isBody start) : p.blockEnd start = start := by
  rw [blockEnd]
  rcases Nat.lt_or_ge start p.lines.toList.length with hlt | hge
  · rw [List.drop_eq_getElem_cons hlt,
      List.takeWhile_cons_of_neg fun hbody => h (isBody_iff.2 ⟨hlt, hbody⟩)]
    rfl
  · rw [List.drop_eq_nil_of_le hge]
    rfl

/-- From any place in a block, or from its end, the block ends where it ends from its start. -/
theorem blockEnd_eq_of_le {start index : Nat} (hs : start ≤ index) (he : index ≤ p.blockEnd start) :
    p.blockEnd index = p.blockEnd start := by
  induction hs with
  | refl => rfl
  | @step index hs ih =>
    have heq := ih (by omega)
    have hbody : p.isBody index := by
      by_contra hno
      have := blockEnd_of_not_isBody hno
      omega
    rw [← blockEnd_of_isBody hbody, heq]

/-- Every line of a block is a body line. -/
theorem isBody_of_lt_blockEnd {start index : Nat} (hs : start ≤ index)
    (he : index < p.blockEnd start) : p.isBody index := by
  by_contra hno
  have := blockEnd_of_not_isBody hno
  have := blockEnd_eq_of_le hs (Nat.le_of_lt he)
  omega

/-- Behind a block stands no body line. -/
theorem not_isBody_blockEnd (start : Nat) : ¬p.isBody (p.blockEnd start) := by
  intro hbody
  have hsucc := blockEnd_of_isBody hbody
  have := p.le_blockEnd (p.blockEnd start + 1)
  have := blockEnd_eq_of_le (p.le_blockEnd start) (Nat.le_refl _)
  omega

/-- A block does not reach past the end of the program. -/
theorem blockEnd_le_size {start : Nat} (h : start ≤ p.size) : p.blockEnd start ≤ p.size := by
  rcases Nat.lt_or_ge start (p.blockEnd start) with hlt | hge
  · have hlast : p.isBody (p.blockEnd start - 1) :=
      isBody_of_lt_blockEnd (Nat.le_sub_one_of_lt hlt) (by omega)
    have := lt_size_of_isBody hlast
    omega
  · omega

/-! ### Definitions -/

theorem ofLines_append_singleton (lines : List String) (line : String) :
    FunctionTable.ofLines (lines ++ [line]) =
      (FunctionTable.ofLines lines).enter line lines.length := by
  simp [FunctionTable.ofLines, List.zipIdx_append]

/-- A table leads to a line exactly when that line is the last header of the name. -/
theorem getElem?_ofLines_eq_some_iff {lines : List String} {name : String} {index : Nat} :
    (FunctionTable.ofLines lines)[name]? = some index ↔
      (∃ line, lines[index]? = some line ∧ FunctionTable.definedName? line = some name) ∧
        ∀ later line, index < later → lines[later]? = some line →
          FunctionTable.definedName? line ≠ some name := by
  induction lines using List.reverseRecOn generalizing index with
  | nil => simp [FunctionTable.ofLines]
  | append_singleton lines last ih =>
    rw [ofLines_append_singleton, FunctionTable.getElem?_enter]
    have hlast : ∀ {i : Nat} {line : String}, (lines ++ [last])[i]? = some line →
        lines[i]? = some line ∨ i = lines.length ∧ line = last := by
      intro i line hi
      rcases Nat.lt_trichotomy i lines.length with hlt | rfl | hgt
      · exact .inl (by rwa [List.getElem?_append_left hlt] at hi)
      · exact .inr ⟨rfl, by simpa using hi.symm⟩
      · simp [List.getElem?_eq_none (show (lines ++ [last]).length ≤ i by simp; omega)] at hi
    have hbefore : ∀ {i : Nat} {line : String}, lines[i]? = some line →
        (lines ++ [last])[i]? = some line := by
      intro i line hi
      rw [List.getElem?_append_left (List.getElem?_eq_some_iff.1 hi).1, hi]
    have hend : (lines ++ [last])[lines.length]? = some last := by simp
    split
    · next hdef =>
      constructor
      · rintro ⟨⟩
        refine ⟨⟨last, hend, hdef⟩, ?_⟩
        intro later line hlt hl
        rcases hlast hl with hl | ⟨rfl, -⟩
        · have := (List.getElem?_eq_some_iff.1 hl).1
          omega
        · omega
      · rintro ⟨⟨line, hl, -⟩, hno⟩
        rcases hlast hl with hl | ⟨rfl, -⟩
        · exact absurd hdef (hno _ _ (List.getElem?_eq_some_iff.1 hl).1 hend)
        · rfl
    · next hdef =>
      rw [ih]
      constructor
      · rintro ⟨⟨line, hl, hd⟩, hno⟩
        refine ⟨⟨line, hbefore hl, hd⟩, ?_⟩
        intro later line hlt hl
        rcases hlast hl with hl | ⟨rfl, rfl⟩
        · exact hno later line hlt hl
        · exact hdef
      · rintro ⟨⟨line, hl, hd⟩, hno⟩
        refine ⟨⟨line, ?_, hd⟩, fun later line hlt hl => hno later line hlt (hbefore hl)⟩
        rcases hlast hl with hl | ⟨rfl, rfl⟩
        · exact hl
        · exact absurd hd hdef

/-- A line reads as a definition of a name exactly when it is there and is a header of it. -/
theorem read_eq_definition_iff {index : Nat} {name : String} :
    p.read index = .ok (.definition name) ↔
      ∃ line, p.lines[index]? = some line ∧ FunctionTable.definedName? line = some name := by
  constructor
  · intro h
    have hlt := lt_size_of_read h
    have hl : p.lines[index]? = some p.lines[index] := Array.getElem?_eq_getElem hlt
    exact ⟨_, hl, FunctionTable.definedName?_eq_some_iff.2 (by rwa [read_of_getElem? hl] at h)⟩
  · rintro ⟨line, hl, hd⟩
    rw [read_of_getElem? hl]
    exact FunctionTable.definedName?_eq_some_iff.1 hd

/-- A function is defined by the last line that reads as a definition of it. -/
theorem functionLine?_eq_some_iff {name : String} {index : Nat} :
    p.functionLine? name = some index ↔
      p.read index = .ok (.definition name) ∧
        ∀ later, index < later → p.read later ≠ .ok (.definition name) := by
  rw [functionLine?, p.functions_eq, getElem?_ofLines_eq_some_iff, read_eq_definition_iff]
  simp only [Array.getElem?_toList, ne_eq, read_eq_definition_iff, not_exists, not_and]
  exact and_congr_right fun _ => forall_congr' fun _ => forall_comm

/-- A function's header reads as its definition. -/
theorem read_of_functionLine? {name : String} {header : Nat}
    (h : p.functionLine? name = some header) : p.read header = .ok (.definition name) :=
  (functionLine?_eq_some_iff.1 h).1

end Program

end LineDebugger
