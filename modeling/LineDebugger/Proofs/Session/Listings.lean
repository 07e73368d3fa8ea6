import LineDebugger.Proofs.Interpreter.Subtraction
import LineDebugger.Proofs.Program.WrittenForm
import LineDebugger.Proofs.Session.Breakpoints
import LineDebugger.Proofs.Session.Printing

/-!
# Listings can be read back

Somebody who drives the debugger by a program has nothing but its output to go by, and has to take
it apart again. That works, because a row of a listing can be cut at its blanks. A variable is three
words, a frame is two, and no word is empty or has a blank in it. From the words all of memory, in
its order, and the whole call stack are found again.

Of the numerals this is plain. Of the names it is not, as nothing in memory or on the stack says
what a name may be. It comes from where names are from: a variable was stored by a statement, a
frame was put there by a call, and either was read from the words of a line. So this goes back to
what is known of every variable and of every frame in reach.

Nothing else that is put out has more than one word, but for the message that a variable was
missing. So a line of output never has white space in it, other than single blanks between words.

## Main definitions

* `Memory.rowWords`, `Frame.rowWords` — the words of a row
* `Memory.ofRows?`, `Frame.ofRow?` — reading rows back
* `Session.Puts` — the lines of output that a line typed to a session can lead to, as words

## Main results

* `Memory.Represents.ofRows?_eq`, `Frame.ofRow?_ofWords` — what is read back from rows
* `Session.exists_puts`, `Session.Puts.isRun` — all output consists of words
* `Session.Reachable.listings_can_be_read_back` — nothing is lost in a listing
-/

namespace LineDebugger

/-! ### Names -/

/-- The name of a variable that a line changes is a word. -/
theorem Program.Explains.isRun {p : Program} {name : String} {v : Variable}
    (h : p.Explains name v) : Text.IsRun Text.isBlank name := by
  obtain ⟨s, hread, rfl, -⟩ := h.changes
  exact (Statement.of_parse hread).1

/-- The name of a function that a line calls is a word. -/
theorem Program.isRun_of_read_call {p : Program} {index : Nat} {name : String}
    (h : p.read index = .ok (.call name)) : Text.IsRun Text.isBlank name := by
  have hderives := Line.parse_eq_ok_iff.1 h
  have hname : name ∈ Text.words (p.lines[index]?.getD "") := by
    generalize Text.words (p.lines[index]?.getD "") = ws at hderives
    cases hderives with
    | call name more => simp
  exact (Text.runs_eq_iff.1 rfl).isRun hname

namespace Engine

variable {limit : Nat} {e : Engine} {name : String} {v : Variable} {frame : Frame}

theorem Reachable.isRun_name (h : Reachable limit e)
    (hv : e.interpreter.memory.find? name = some v) : Text.IsRun Text.isBlank name := by
  obtain ⟨p, -, hexplains, -⟩ := h.explained hv
  exact hexplains.isRun

theorem Reachable.isRun_function (h : Reachable limit e) (hframe : frame ∈ e.stack) :
    Text.IsRun Text.isBlank frame.function := by
  have hplaced := h.placed
  cases hp : e.program? with
  | none =>
    rw [Placed, hp] at hplaced
    rw [hplaced.1] at hframe
    cases hframe
  | some p =>
    have hchain := ((placed_iff hp).1 hplaced).chain
    exact Program.isRun_of_read_call (hchain.read_callLine hframe)

/-- The interpreter of a reachable engine is one that statements lead to. -/
theorem Reachable.interpreter (h : Reachable limit e) : e.interpreter.Reachable := by
  induction h with
  | initial => exact .initial
  | load source h ih => exact .initial
  | reset h ih => exact .initial
  | @step e h ih =>
    cases hs : e.statement? with
    | none => rwa [(step_of_no_statement hs).1]
    | some s =>
      rw [step_state_of_statement? hs]
      exact .execute s ih

end Engine

/-! ### Rows -/

/-- What is read back piece by piece is read back as a whole. -/
theorem mapM_map_eq_some {α β : Type} {read : β → Option α} {write : α → β} {xs : List α}
    (h : ∀ x ∈ xs, read (write x) = some x) : (xs.map write).mapM read = some xs := by
  induction xs with
  | nil => rfl
  | cons x xs ih =>
    obtain ⟨hx, hxs⟩ := List.forall_mem_cons.1 h
    rw [List.map_cons, List.mapM_cons, hx, ih hxs]
    rfl

namespace Memory

variable {m : Memory} {entries : Listing} {entry : String × Variable}

/-- The words of the row for a variable. -/
def rowWords (entry : String × Variable) : List String :=
  [entry.1, toString entry.2.value.toInt, toString entry.2.line]

/-- The variable that a row shows. -/
def ofRow? (row : String) : Option (String × Variable) :=
  match Text.words row with
  | [name, value, line] =>
    match Numeral.integer? value, Numeral.digits? line.toList with
    | some value, some line => some (name, ⟨value, line⟩)
    | _, _ => none
  | _ => none

/-- Memory with these variables, in this order. -/
def ofListing (entries : Listing) : Memory := ⟨entries.names, Std.ExtTreeMap.ofList entries⟩

/-- The memory that some rows show. -/
def ofRows? (rows : List String) : Option Memory := (rows.mapM ofRow?).map ofListing

theorem isRun_of_mem_rowWords (h : Text.IsRun Text.isBlank entry.1) :
    ∀ word ∈ rowWords entry, Text.IsRun Text.isBlank word := by
  simp only [rowWords, List.forall_mem_cons]
  exact ⟨h, (Numeral.denotes_toString _).isRun, Numeral.isRun_toString _,
    fun _ hno => absurd hno List.not_mem_nil⟩

/-- A variable is read back from its row. -/
theorem ofRow?_ofWords (h : Text.IsRun Text.isBlank entry.1) :
    ofRow? (Text.ofWords (rowWords entry)) = some entry := by
  have hvalue : Numeral.integer? (toString entry.2.value.toInt) = some entry.2.value :=
    Numeral.integer?_eq_some_iff.2 (Numeral.denotes_toString _)
  rw [ofRow?, Text.words_ofWords (isRun_of_mem_rowWords h)]
  simp only [rowWords, hvalue, (Numeral.isDecimal_toString entry.2.line).digits]

/-- Memory is what it lists. -/
theorem Represents.ofListing_eq (h : m.Represents entries) : ofListing entries = m := by
  have hindex : Std.ExtTreeMap.ofList entries = m.index := by
    apply Std.ExtTreeMap.ext_getElem?
    intro name
    show _ = m.find? name
    cases hfind : m.find? name with
    | none =>
      apply Std.ExtTreeMap.getElem?_ofList_of_contains_eq_false
      rw [← Bool.not_eq_true, List.contains_iff_mem]
      intro hname
      obtain ⟨v, hv⟩ := Listing.mem_names_iff.1 hname
      rw [(h.find? name v).2 hv] at hfind
      cases hfind
    | some v =>
      have hnodup : entries.names.Nodup := h.names ▸ h.nodup
      have hdistinct : entries.Pairwise fun a b => ¬compare a.1 b.1 = .eq :=
        (List.pairwise_map.1 hnodup).imp fun hne heq =>
          hne (Std.LawfulEqCmp.eq_of_compare heq)
      exact Std.ExtTreeMap.getElem?_ofList_of_mem Std.ReflCmp.compare_self hdistinct
        ((h.find? name v).1 hfind)
  rw [ofListing, ← h.names, hindex]

/-- Memory is read back from its rows. -/
theorem Represents.ofRows?_eq (h : m.Represents entries)
    (hnames : ∀ entry ∈ entries, Text.IsRun Text.isBlank entry.1) :
    ofRows? (entries.map fun entry => Text.ofWords (rowWords entry)) = some m := by
  rw [ofRows?, mapM_map_eq_some fun entry hentry => ofRow?_ofWords (hnames entry hentry),
    Option.map_some, h.ofListing_eq]

end Memory

namespace Frame

variable {frame : Frame}

/-- The words of the row for a frame. -/
def rowWords (frame : Frame) : List String := [toString frame.callLine, frame.function]

/-- The frame that a row shows. -/
def ofRow? (row : String) : Option Frame :=
  match Text.words row with
  | [line, function] => (Numeral.digits? line.toList).map (⟨function, ·⟩)
  | _ => none

theorem isRun_of_mem_rowWords (h : Text.IsRun Text.isBlank frame.function) :
    ∀ word ∈ frame.rowWords, Text.IsRun Text.isBlank word := by
  simp only [rowWords, List.forall_mem_cons]
  exact ⟨Numeral.isRun_toString _, h, fun _ hno => absurd hno List.not_mem_nil⟩

/-- A frame is read back from its row. -/
theorem ofRow?_ofWords (h : Text.IsRun Text.isBlank frame.function) :
    ofRow? (Text.ofWords frame.rowWords) = some frame := by
  rw [ofRow?, Text.words_ofWords (isRun_of_mem_rowWords h)]
  simp only [rowWords, (Numeral.isDecimal_toString frame.callLine).digits, Option.map_some]

end Frame

/-! ### Output -/

namespace Session

variable {limit : Nat} {s : Session} {line row : String} {ws : List String}

theorem outputs_printMemory_eq_ofWords (ha : s.awaitingSource = false) :
    outputs (s.execute "print mem").events =
      s.engine.interpreter.memory.toList.map fun entry => Text.ofWords (Memory.rowWords entry) := by
  rw [outputs_printMemory ha]
  refine List.map_congr_left fun entry _ => ?_
  simp only [Text.ofWords, Memory.rowWords, String.intercalate_cons_cons,
    String.intercalate_singleton, ← String.append_assoc]
  rfl

/-- Listing the calls shows all frames, the innermost first. -/
theorem outputs_printTrace (ha : s.awaitingSource = false) :
    outputs (s.execute "print trace").events =
      s.engine.stack.map fun frame => Text.ofWords frame.rowWords := by
  have hparse : Command.parse "print trace" = .ok (some .printTrace) := rfl
  rw [execute_of_parse ha hparse, outputs_settle, ← List.filterMap_eq_map]
  exact List.filterMap_map

/-- The words of the lines of output that a line typed to a session can lead to. -/
inductive Puts (s : Session) : String → List String → Prop
  /-- A program prints a value. -/
  | printed (line : String) (value : Int64) : Puts s line [toString value.toInt]
  /-- A program misses a variable. -/
  | variableMissing (line : String) : Puts s line ["variable", "absent", "from", "memory"]
  | memoryRow {entry : String × Variable} (h : entry ∈ s.engine.interpreter.memory.toList) :
      Puts s "print mem" (Memory.rowWords entry)
  | traceRow {frame : Frame} (h : frame ∈ s.engine.stack) : Puts s "print trace" frame.rowWords
  | breakpointRow (line : Nat) : Puts s "print breaks" [toString line]

/-- What is put out consists of words. -/
theorem Puts.isRun (h : Reachable limit s) (hputs : s.Puts line ws) :
    ∀ word ∈ ws, Text.IsRun Text.isBlank word := by
  cases hputs with
  | printed line value => simpa using (Numeral.denotes_toString value.toInt).isRun
  | variableMissing line => decide
  | memoryRow hentry =>
    exact Memory.isRun_of_mem_rowWords (h.engine.isRun_name (Memory.find?_of_mem_toList hentry))
  | traceRow hframe => exact Frame.isRun_of_mem_rowWords (h.engine.isRun_function hframe)
  | breakpointRow line => simpa using Numeral.isRun_toString line

/-- A command that moves the engine puts out values and the message that a variable is missing. -/
theorem exists_puts_of_moves {c : Command} (hmoves : c.moves)
    (hrow : row ∈ outputs (s.perform c).events) : ∃ ws, row = Text.ofWords ws ∧ s.Puts line ws := by
  cases hp : s.engine.program? with
  | none =>
    rw [(still_of_no_program hp hmoves).2] at hrow
    cases hrow
  | some p =>
    obtain ⟨n, hreflects, hgoing⟩ := perform_reflects_steps hp hmoves
    rw [hreflects.outputs, Engine.outputs_steps hgoing] at hrow
    rcases List.mem_append.1 hrow with hvalue | hmessage
    · obtain ⟨value, -, rfl⟩ := List.mem_map.1 hvalue
      exact ⟨_, (Text.ofWords_singleton _).symm, .printed line value⟩
    · split at hmessage
      · obtain rfl := List.mem_singleton.1 hmessage
        exact ⟨_, by decide, .variableMissing line⟩
      · cases hmessage

/-- There is no other output. -/
theorem exists_puts (hrow : row ∈ outputs (s.execute line).events) :
    ∃ ws, row = Text.ofWords ws ∧ s.Puts line ws := by
  rcases eq_or_ne line "" with rfl | hline
  · cases hrow
  cases ha : s.awaitingSource with
  | true =>
    rw [execute, if_neg hline, ha] at hrow
    cases hrow
  | false =>
    cases hparse : Command.parse line with
    | error error =>
      rw [execute_of_ne_empty hline ha, outputs_settle, dispatch, hparse] at hrow
      cases hrow
    | ok command? =>
      cases command? with
      | none =>
        rw [execute_of_ne_empty hline ha, outputs_settle, dispatch, hparse] at hrow
        cases hrow
      | some c =>
        have hperform : outputs (s.execute line).events = outputs (s.perform c).events := by
          rw [execute_of_parse ha hparse, outputs_settle]
          rfl
        have hderives := Command.parse_eq_some_iff.1 hparse
        generalize Text.words line = ws at hderives
        cases hderives with
        | run => exact exists_puts_of_moves rfl (hperform ▸ hrow)
        | step => exact exists_puts_of_moves rfl (hperform ▸ hrow)
        | stepOver => exact exists_puts_of_moves rfl (hperform ▸ hrow)
        | printMemory =>
          rw [outputs_printMemory_eq_ofWords ha] at hrow
          obtain ⟨entry, hentry, rfl⟩ := List.mem_map.1 hrow
          exact ⟨_, rfl, .memoryRow hentry⟩
        | printTrace =>
          rw [outputs_printTrace ha] at hrow
          obtain ⟨frame, hframe, rfl⟩ := List.mem_map.1 hrow
          exact ⟨_, rfl, .traceRow hframe⟩
        | printBreakpoints =>
          rw [outputs_printBreakpoints ha] at hrow
          obtain ⟨line, -, rfl⟩ := List.mem_map.1 hrow
          exact ⟨_, (Text.ofWords_singleton _).symm, .breakpointRow line⟩
        | _ =>
          rw [hperform] at hrow
          cases hrow

/-- **Listings can be read back.** Unless a program is awaited, a listing of the memory has one row
for each variable, in the order in which the variables came. A row has three words, which are the
name, the value and the line of the last change, and from the rows the memory is found again. A
listing of the calls has one row for each frame, the innermost first. A row has two words, which are
the line of the call and the function, and from the rows the call stack is found again. No line of
output that any line typed leads to has white space in it, a newline for example, other than a
single blank between two words. More than one word is found only in these two listings, and in the
message that a variable is missing. -/
theorem Reachable.listings_can_be_read_back (h : Reachable limit s) :
    (s.awaitingSource = false →
      let memory := s.engine.interpreter.memory
      let rows := outputs (s.execute "print mem").events
      let frames := outputs (s.execute "print trace").events
      (memory.Represents memory.toList ∧
          (∃ changes, memory = Memory.empty.applyAll changes ∧
            memory.toList = Listing.applyAll [] changes) ∧
          rows.map Text.words = memory.toList.map Memory.rowWords ∧
            Memory.ofRows? rows = some memory) ∧
        frames.map Text.words = s.engine.stack.map Frame.rowWords ∧
          frames.mapM Frame.ofRow? = some s.engine.stack) ∧
      ∀ line, ∀ row ∈ outputs (s.execute line).events,
        row = Text.ofWords (Text.words row) ∧ (∀ c ∈ row.toList, Text.isBlank c → c = ' ') ∧
          (Text.IsRun Text.isBlank row ∨ row = missingVariableMessage ∨ line = "print mem" ∨
            line = "print trace") := by
  refine ⟨fun ha => ?_, fun line row hrow => ?_⟩
  · intro memory rows frames
    have hnames : ∀ entry ∈ memory.toList, Text.IsRun Text.isBlank entry.1 := fun entry hentry =>
      h.engine.isRun_name (Memory.find?_of_mem_toList hentry)
    have hfunctions : ∀ frame ∈ s.engine.stack, Text.IsRun Text.isBlank frame.function :=
      fun frame => h.engine.isRun_function
    have hrows : rows = memory.toList.map fun entry => Text.ofWords (Memory.rowWords entry) :=
      outputs_printMemory_eq_ofWords ha
    have hframes : frames = s.engine.stack.map fun frame => Text.ofWords frame.rowWords :=
      outputs_printTrace ha
    have hmemory : memory.Represents memory.toList := h.engine.interpreter.represents
    obtain ⟨changes, hchanges⟩ := h.engine.interpreter.exists_changes
    have hlisted := (Memory.Represents.empty.applyAll changes).toList_eq
    rw [← hchanges] at hlisted
    refine ⟨⟨hmemory, ⟨changes, hchanges, hlisted⟩, ?_, ?_⟩, ?_, ?_⟩
    · rw [hrows, List.map_map]
      exact List.map_congr_left fun entry hentry =>
        Text.words_ofWords (Memory.isRun_of_mem_rowWords (hnames entry hentry))
    · rw [hrows]
      exact hmemory.ofRows?_eq hnames
    · rw [hframes, List.map_map]
      exact List.map_congr_left fun frame hframe =>
        Text.words_ofWords (Frame.isRun_of_mem_rowWords (hfunctions frame hframe))
    · rw [hframes]
      exact mapM_map_eq_some fun frame hframe => Frame.ofRow?_ofWords (hfunctions frame hframe)
  · obtain ⟨ws, rfl, hputs⟩ := exists_puts hrow
    have hruns := hputs.isRun h
    rw [Text.words_ofWords hruns]
    refine ⟨rfl, fun c => Text.eq_space_of_mem_ofWords hruns, ?_⟩
    cases hputs with
    | printed line value => exact .inl (by simpa using hruns)
    | variableMissing line => exact .inr (.inl (by decide))
    | memoryRow hentry => exact .inr (.inr (.inl rfl))
    | traceRow hframe => exact .inr (.inr (.inr rfl))
    | breakpointRow line => exact .inl (by simpa using hruns)

/-- A call is made in the course of another. A variable and a function are called like keywords, and
a variable is called like a number. -/
def pausedInNestedCall : Session :=
  (((initial 4).load
      "set def 7\nset 5\t+09 more\ncall call\ndef call\n    sub def 2\n    call f\ndef f"
    |>.state.execute "add break 6").state.execute "run").state

/-- Both listings are read back. -/
theorem pausedInNestedCall_listed :
    Reachable 4 pausedInNestedCall ∧
      outputs (pausedInNestedCall.execute "print mem").events = ["def 5 4", "5 9 1"] ∧
        Memory.ofRows? ["def 5 4", "5 9 1"] =
            some pausedInNestedCall.engine.interpreter.memory ∧
          outputs (pausedInNestedCall.execute "print trace").events = ["5 f", "2 call"] ∧
            ["5 f", "2 call"].mapM Frame.ofRow? = some [⟨"f", 5⟩, ⟨"call", 2⟩] := by
  have h : Reachable 4 pausedInNestedCall := by
    rw [pausedInNestedCall]
    exact .execute _ (.execute _ (.load _ .initial))
  obtain ⟨ha, hstack, hrows, hframes⟩ : pausedInNestedCall.awaitingSource = false ∧
      pausedInNestedCall.engine.stack = [⟨"f", 5⟩, ⟨"call", 2⟩] ∧
        outputs (pausedInNestedCall.execute "print mem").events = ["def 5 4", "5 9 1"] ∧
          outputs (pausedInNestedCall.execute "print trace").events = ["5 f", "2 call"] := by
    decide +kernel
  obtain ⟨⟨-, -, -, hmemory⟩, -, hcalls⟩ := h.listings_can_be_read_back.1 ha
  rw [hrows] at hmemory
  rw [hframes, hstack] at hcalls
  exact ⟨h, hrows, hmemory, hframes, hcalls⟩

end Session

end LineDebugger
