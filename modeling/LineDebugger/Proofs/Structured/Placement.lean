import LineDebugger.Proofs.Structured.Agreement

/-!
# Where definitions stand

A program of whole definitions and of lines outside of them can have its definitions anywhere: at
the front, at the end, or between any two lines. The engine goes through quite different positions
then. It passes over definitions at other times, its calls lead to other lines and come back to
others, and whether a block ends at another definition, at a line or at the end of the program is a
matter of what happens to stand behind it. None of this is seen in the structured reading, which
asks a program for the lines outside of definitions and for the block of each function, and gets
the same answers from both.

For the blocks it takes that no function is defined twice, since of two definitions the last one
counts. And a block must not be followed by a body line that is not its own, which is why a line
outside of definitions is not indented.

## Main definitions

* `PlainLine`, `Definition`, `Item` — what a program is made of
* `Rearranged` — the definitions in other places

## Main results

* `Item.mainLines_flatMap` — the lines outside of definitions
* `Item.blockOf?_of_mem`, `Item.blockOf?_of_not_mem` — the block of each function
* `Structured.run_rearranged` — the structured reading of a program and of the program rearranged
* `Session.run_rest` — a run without breakpoints reports all that is left to do
* `Session.placement_not_seen` — the runs of a program and of the program rearranged
-/

namespace LineDebugger

open FunctionTable (definedName?)

/-! ### Items -/

/-- A line outside of definitions. -/
structure PlainLine where
  text : String
  unindented : isBodyLine text = false
  undefining : definedName? text = none
deriving DecidableEq

/-- The header of a function with the lines of its block. -/
structure Definition where
  name : String
  header : String
  body : List String
  unindented : isBodyLine header = false
  defines : definedName? header = some name
  indented : ∀ line ∈ body, isBodyLine line
  undefining : ∀ line ∈ body, definedName? line = none
deriving DecidableEq

/-- What a program is made of. -/
inductive Item
  | line (line : PlainLine)
  | definition (definition : Definition)
deriving DecidableEq

namespace Item

/-- The lines of an item. -/
def lines : Item → List String
  | line l => [l.text]
  | definition d => d.header :: d.body

/-- The text of a line outside of definitions. -/
def text? : Item → Option String
  | line l => some l.text
  | definition _ => none

/-- The function that an item defines. -/
def name? : Item → Option String
  | line _ => none
  | definition d => some d.name

variable {items : List Item} {name text : String}

/-- The first line of a program is no body line. -/
theorem isBodyLine_of_mem_head? (h : text ∈ (items.flatMap lines).head?) :
    isBodyLine text = false := by
  rcases items with _ | ⟨l | d, items⟩
  · cases h
  · obtain rfl := Option.some.inj h
    exact l.unindented
  · obtain rfl := Option.some.inj h
    exact d.unindented

/-- Only the header of a function defines it. -/
theorem mem_names_of_defines (h : text ∈ items.flatMap lines)
    (hdef : definedName? text = some name) : ∃ d, definition d ∈ items ∧ d.name = name := by
  obtain ⟨item, hitem, htext⟩ := List.mem_flatMap.1 h
  rcases item with l | d
  · rw [List.mem_singleton.1 htext, l.undefining] at hdef
    cases hdef
  · rcases List.mem_cons.1 htext with rfl | hbody
    · rw [d.defines] at hdef
      exact ⟨d, hitem, Option.some.inj hdef⟩
    · rw [d.undefining text hbody] at hdef
      cases hdef

/-! ### What the structured reading asks for -/

open Structured

/-- Behind a definition its block ends. -/
theorem span_isBody (d : Definition) (items : List Item) (start start' : Nat) :
    (d.body.zipIdx start ++ (items.flatMap lines).zipIdx start').takeWhile isBody =
        d.body.zipIdx start ∧
      (d.body.zipIdx start ++ (items.flatMap lines).zipIdx start').dropWhile isBody =
        (items.flatMap lines).zipIdx start' := by
  have hbody : ∀ line ∈ d.body.zipIdx start, isBody line :=
    fun line hline => d.indented _ (List.fst_mem_of_mem_zipIdx hline)
  have hhead : ∀ line ∈ ((items.flatMap lines).zipIdx start').head?, isBody line = false := by
    intro line hline
    rw [List.head?_zipIdx] at hline
    obtain ⟨text, htext, rfl⟩ := Option.map_eq_some_iff.1 hline
    exact isBodyLine_of_mem_head? htext
  rw [List.takeWhile_append_of_pos hbody, List.dropWhile_append_of_pos hbody]
  cases hrest : (items.flatMap lines).zipIdx start' with
  | nil => simp
  | cons line rest =>
    have hline : ¬isBody line := by
      rw [hhead line (by rw [hrest]; rfl)]
      exact Bool.false_ne_true
    rw [List.takeWhile_cons_of_neg hline, List.dropWhile_cons_of_neg hline, List.append_nil]
    exact ⟨rfl, rfl⟩

/-- The lines outside of definitions are those of the items that are lines. -/
theorem mainLines_flatMap (items : List Item) (start : Nat) :
    (mainLines ((items.flatMap lines).zipIdx start)).map Prod.fst = items.filterMap text? := by
  induction items generalizing start with
  | nil => simp [mainLines]
  | cons item items ih =>
    rw [List.flatMap_cons, List.zipIdx_append]
    rcases item with l | d
    · have hundefining : ¬(definedName? l.text).isSome := by simp [l.undefining]
      rw [lines, List.zipIdx_singleton, List.singleton_append, mainLines, if_neg hundefining,
        List.map_cons, ih]
      rfl
    · have hdefines : (definedName? d.header).isSome := by simp [d.defines]
      rw [lines, List.zipIdx_cons, List.cons_append, mainLines, if_pos hdefines,
        (span_isBody d items _ _).2, ih]
      rfl

/-- A function that is defined once has the body of its definition for a block. -/
theorem blockOf?_of_mem {d : Definition} (hnames : (items.filterMap name?).Nodup)
    (hd : definition d ∈ items) : blockOf? (items.flatMap lines) d.name = some d.body := by
  obtain ⟨before, after, rfl⟩ := List.append_of_mem hd
  have hother : ∀ {others : List Item} {start : Nat}, d.name ∉ others.filterMap name? →
      ((others.flatMap lines).zipIdx start).filter (Structured.defines d.name) = [] := by
    intro others start hnot
    rw [List.filter_eq_nil_iff]
    intro line hline hdef
    obtain ⟨d', hd', hname⟩ :=
      mem_names_of_defines (List.fst_mem_of_mem_zipIdx hline) (defines_iff.1 hdef)
    exact hnot (List.mem_filterMap.2 ⟨_, hd', congrArg some hname⟩)
  have hbody : ∀ start, (d.body.zipIdx start).filter (Structured.defines d.name) = [] := by
    intro start
    rw [List.filter_eq_nil_iff]
    intro line hline hdef
    have hnone := d.undefining _ (List.fst_mem_of_mem_zipIdx hline)
    rw [defines_iff.1 hdef] at hnone
    cases hnone
  have hsome : name? (definition d) = some d.name := rfl
  rw [List.filterMap_append, List.filterMap_cons_some hsome, List.nodup_append,
    List.nodup_cons] at hnames
  obtain ⟨-, ⟨hafter, -⟩, hdisjoint⟩ := hnames
  have hbefore : d.name ∉ before.filterMap name? :=
    fun hmem => hdisjoint _ hmem _ List.mem_cons_self rfl
  -- the header stands alone among the lines that define the function
  have hsplit : ((before ++ definition d :: after).flatMap lines).zipIdx =
      ((before.flatMap lines).zipIdx ++ [(d.header, (before.flatMap lines).length)]) ++
        (d.body.zipIdx ((before.flatMap lines).length + 1) ++ (after.flatMap lines).zipIdx
          ((before.flatMap lines).length + 1 + d.body.length)) := by
    rw [List.flatMap_append, List.flatMap_cons, lines, List.zipIdx_append, List.cons_append,
      List.zipIdx_cons, List.zipIdx_append, Nat.zero_add, List.append_assoc]
    rfl
  have hheader : Structured.defines d.name (d.header, (before.flatMap lines).length) :=
    defines_iff.2 d.defines
  have hlast : lastDefinition? ((before ++ definition d :: after).flatMap lines) d.name =
      some (before.flatMap lines).length := by
    rw [lastDefinition?, hsplit, List.filter_append, List.filter_append, List.filter_append,
      hother hbefore, hbody, hother hafter, List.filter_cons_of_pos hheader]
    rfl
  rw [blockOf?, hlast, Option.map_some, block, hsplit, List.drop_left' (by simp),
    (span_isBody d after _ _).1, List.zipIdx_map_fst]

/-- A function that no item defines has no block. -/
theorem blockOf?_of_not_mem (h : ∀ d, definition d ∈ items → d.name ≠ name) :
    blockOf? (items.flatMap lines) name = none := by
  have hnone : (items.flatMap lines).zipIdx.filter (Structured.defines name) = [] := by
    rw [List.filter_eq_nil_iff]
    intro line hline hdef
    obtain ⟨d, hd, hname⟩ :=
      mem_names_of_defines (List.fst_mem_of_mem_zipIdx hline) (defines_iff.1 hdef)
    exact h d hd hname
  rw [blockOf?, lastDefinition?, hnone]
  rfl

end Item

/-! ### Another order -/

/-- The same items in another order, with the lines outside of definitions in the same order. -/
structure Rearranged (items items' : List Item) : Prop where
  perm : items.Perm items'
  texts : items.filterMap Item.text? = items'.filterMap Item.text?

/-- Every function has the same block. -/
theorem Rearranged.blockOf?_eq {items items' : List Item} (h : Rearranged items items')
    (hnames : (items.filterMap Item.name?).Nodup) (name : String) :
    Structured.blockOf? (items.flatMap Item.lines) name =
      Structured.blockOf? (items'.flatMap Item.lines) name := by
  have hnames' : (items'.filterMap Item.name?).Nodup := (h.perm.filterMap _).nodup_iff.1 hnames
  by_cases hd : ∃ d, Item.definition d ∈ items ∧ d.name = name
  · obtain ⟨d, hd, rfl⟩ := hd
    rw [Item.blockOf?_of_mem hnames hd, Item.blockOf?_of_mem hnames' (h.perm.mem_iff.1 hd)]
  · push Not at hd
    rw [Item.blockOf?_of_not_mem hd,
      Item.blockOf?_of_not_mem fun d hmem => hd d (h.perm.mem_iff.2 hmem)]

/-- The structured reading of a program and that of the program rearranged agree. -/
theorem Structured.run_rearranged {items items' : List Item} {a b : String}
    (ha : sourceLines a = items.flatMap Item.lines)
    (hb : sourceLines b = items'.flatMap Item.lines)
    (hnames : (items.filterMap Item.name?).Nodup) (h : Rearranged items items') (limit : Nat) :
    (run a limit).Agrees (run b limit) := by
  rw [run, run, ha, hb, exec_mainLines, @exec_mainLines (items'.flatMap Item.lines)]
  refine exec_agrees (h.blockOf?_eq hnames) ?_ ?_ (.refl _)
  · intro _ line hline
    exact definedName?_of_mem_mainLines hline
  · rw [Item.mainLines_flatMap, Item.mainLines_flatMap, h.texts]

/-! ### Runs -/

/-- The error without the line of the program. -/
def CommandError.unplaced : CommandError → CommandError
  | program error => program error.unplaced
  | invalidBreakpoint command => invalidBreakpoint command

theorem Ending.error?_unplaced {ending ending' : Ending} (h : ending.unplaced = ending'.unplaced) :
    (ending.error?.map CommandError.program).map CommandError.unplaced =
      (ending'.error?.map CommandError.program).map CommandError.unplaced := by
  have herror : ∀ ending : Ending,
      (ending.error?.map CommandError.program).map CommandError.unplaced =
        ending.unplaced.error?.map CommandError.program := by
    intro ending
    cases ending <;> rfl
  rw [herror, herror, h]

/-- A run without breakpoints reports all that is left to do. -/
theorem Session.run_rest {s : Session} {p : Program} (hp : s.engine.program? = some p)
    (hok : s.engine.succeeded) (hb : s.breakpoints = .empty) (ha : s.awaitingSource = false) :
    outputs (s.execute "run").events = s.engine.rest.output ∧
      (s.execute "run").error? = s.engine.rest.ending.error?.map .program ∧
        Session.ending? (s.dispatch "run") = some s.engine.rest.ending := by
  have hparse : Command.parse "run" = .ok (some .run) := rfl
  have hhalt : ∀ e : Engine, s.breakpoints.contains e.cursor = false := by
    intro e
    rw [hb, Breakpoints.contains_empty]
  have hgo : (s.engine.go fun e => s.breakpoints.contains e.cursor) =
      s.engine.advance (fun _ => false) #[] := by
    rw [Engine.go_eq_advance hp hok hhalt]
    exact congrArg (s.engine.advance · #[]) (funext hhalt)
  have hreflects := run_reflects hp
  rw [hgo] at hreflects
  have hending : Session.ending? (s.outcome .run) = some s.engine.rest.ending := by
    obtain ⟨k, hk, hreason, -⟩ := Engine.advance_eq_steps (fun _ => false) hp
    rw [outcome, perform, hreflects.ending?, Report.ending?_eq]
    · rfl
    · rw [hk]
      exact hreason.resolve_right Bool.false_ne_true
  rw [execute_of_parse ha hparse, dispatch_of_parse hparse, outputs_settle, settle_error?]
  exact ⟨hreflects.outputs, error?_of_ending? hending, hending⟩

/-- What is left to do in a program that has just been loaded is its structured reading. -/
theorem Session.rest_of_load (s : Session) (source : String) :
    (s.load source).state.engine.rest = Structured.run source s.engine.depthLimit := by
  let p := Program.ofSource source
  have hpending : Structured.Pending p [] 0 p.lines.toList.zipIdx := rfl
  exact (Structured.rest_eq_exec rfl hpending).trans (Report.andThen_finished _)

/-- **It does not matter where definitions stand.** Take a program that is made of definitions with
their blocks, each of another function, and of lines outside of them that are not indented, and put
these in any other order that keeps the order of the lines outside of definitions. Freshly loaded,
the two programs run alike without breakpoints. They put out the same lines, and both come to an
end, in the same way: with the last line, with a variable that is missing, or with the same error
but for its line. -/
theorem Session.placement_not_seen {items items' : List Item} {a b : String} (s : Session)
    (hbreakpoints : s.breakpoints = .empty) (hawaiting : s.awaitingSource = false)
    (ha : sourceLines a = items.flatMap Item.lines)
    (hb : sourceLines b = items'.flatMap Item.lines)
    (hnames : (items.filterMap Item.name?).Nodup) (h : Rearranged items items') :
    let t := (s.load a).state
    let t' := (s.load b).state
    outputs (t.execute "run").events = outputs (t'.execute "run").events ∧
      (t.execute "run").error?.map CommandError.unplaced =
        (t'.execute "run").error?.map CommandError.unplaced ∧
      ∃ ending ending', Session.ending? (t.dispatch "run") = some ending ∧
        Session.ending? (t'.dispatch "run") = some ending' ∧
          ending.unplaced = ending'.unplaced := by
  intro t t'
  have hreport := Structured.run_rearranged ha hb hnames h s.engine.depthLimit
  rw [← s.rest_of_load a, ← s.rest_of_load b] at hreport
  obtain ⟨houtput, herror, hending⟩ := run_rest (s := t) rfl rfl hbreakpoints hawaiting
  obtain ⟨houtput', herror', hending'⟩ := run_rest (s := t') rfl rfl hbreakpoints hawaiting
  refine ⟨?_, ?_, _, _, hending, hending', hreport.ending⟩
  · rw [houtput, houtput']
    exact hreport.output
  · rw [herror, herror']
    exact Ending.error?_unplaced hreport.ending

/-- Two lines and two definitions between them. -/
def callingFirst : List Item :=
  [.line ⟨"call f", by decide, by decide⟩,
    .definition ⟨"f", "def f", ["    set a 2", "    print a", "    call g"], by decide, by decide,
      by decide, by decide⟩,
    .line ⟨"print b", by decide, by decide⟩,
    .definition ⟨"g", "def g", ["    sub a 2"], by decide, by decide, by decide, by decide⟩]

/-- The definitions stand around the lines. -/
def callingBetween : List Item :=
  [.definition ⟨"g", "def g", ["    sub a 2"], by decide, by decide, by decide, by decide⟩,
    .line ⟨"call f", by decide, by decide⟩, .line ⟨"print b", by decide, by decide⟩,
    .definition ⟨"f", "def f", ["    set a 2", "    print a", "    call g"], by decide, by decide,
      by decide, by decide⟩]

/-- With the definitions in other places the same value is refused, on another line. -/
theorem Session.callingBetween_refused :
    let source :=
      "call f\ndef f\n    set a 2\n    print a\n    call g\nprint b\ndef g\n    sub a 2"
    let source' :=
      "def g\n    sub a 2\ncall f\nprint b\n\ndef f\n    set a 2\n    print a\n    call g"
    let t := ((initial 5).load source).state
    let t' := ((initial 5).load source').state
    sourceLines source = callingFirst.flatMap Item.lines ∧
      sourceLines source' = callingBetween.flatMap Item.lines ∧
      Rearranged callingFirst callingBetween ∧
      outputs (t.execute "run").events = outputs (t'.execute "run").events ∧
      (t.execute "run").error? = some (.program (.invalidValue "a" 0 7)) ∧
      (t'.execute "run").error? = some (.program (.invalidValue "a" 0 1)) := by
  intro source source' t t'
  have hsource : sourceLines source = callingFirst.flatMap Item.lines := by decide +kernel
  have hsource' : sourceLines source' = callingBetween.flatMap Item.lines := by decide +kernel
  have h : Rearranged callingFirst callingBetween := ⟨by decide +kernel, by decide +kernel⟩
  obtain ⟨houtput, -, -⟩ :=
    placement_not_seen (initial 5) rfl rfl hsource hsource' (by decide +kernel) h
  exact ⟨hsource, hsource', h, houtput, by decide +kernel, by decide +kernel⟩

end LineDebugger
