import LineDebugger.Proofs.Memory
import LineDebugger.Proofs.Structured.Machine

/-!
# Line numbers are only told

A program names its functions and its variables, and never a line. Where a line number comes up in
carrying out a program, it is told and nothing else: an error says where it happened, and a
variable remembers where it was changed last. So if two programs have the same lines outside of
definitions, and the same block for every function, they are carried out alike, on whatever lines
all this stands. Their reports have the same output and the same variables with the same values,
and the same ending but for the line of an error.

Outside of calls this is not yet a statement about one line after another, because the two programs
may have their definitions in different places. It becomes one when the definitions are taken out,
with their blocks: what is left is carried out in the same way. In a block there is nothing to take
out, because a definition ends it.

## Main definitions

* `ProgramError.unplaced`, `Ending.unplaced` — without the line
* `Memory.SameValues`, `Report.Agrees` — alike but for lines
* `Structured.blockOf?` — the texts in the block of a function
* `Structured.mainLines` — the lines outside of definitions

## Main results

* `Structured.execStatement_agrees` — a statement does the same on another line
* `Structured.exec_mainLines` — definitions can be taken out
* `Structured.exec_agrees` — the same lines and the same blocks, on other lines
-/

namespace LineDebugger

/-- The error on no line in particular. -/
def ProgramError.unplaced : ProgramError → ProgramError
  | invalidValue name value _ => invalidValue name value 0
  | unknownFunction name _ => unknownFunction name 0
  | malformed _ text fault => malformed 0 text fault
  | depthExceeded limit _ => depthExceeded limit 0

/-- The ending without the line of an error. -/
def Ending.unplaced : Ending → Ending
  | finished => finished
  | missingVariable => missingVariable
  | failed error => failed error.unplaced

/-! ### Memory -/

namespace Memory

variable {m m' : Memory}

/-- The same variables in the same order with the same values. They may have been changed on
different lines. -/
structure SameValues (m m' : Memory) : Prop where
  names : m.names = m'.names
  value? : ∀ name, (m.find? name).map Variable.value = (m'.find? name).map Variable.value

theorem SameValues.refl (m : Memory) : m.SameValues m := ⟨rfl, fun _ => rfl⟩

theorem SameValues.find?_eq_none_iff (h : m.SameValues m') (name : String) :
    m.find? name = none ↔ m'.find? name = none := by
  rw [← Option.map_eq_none_iff (f := Variable.value), h.value? name, Option.map_eq_none_iff]

theorem SameValues.contains_eq (h : m.SameValues m') (name : String) :
    m.contains name = m'.contains name := by
  rw [Bool.eq_iff_iff, contains, contains, ← Option.ne_none_iff_isSome,
    ← Option.ne_none_iff_isSome]
  exact not_congr (h.find?_eq_none_iff name)

theorem SameValues.exists_find? (h : m.SameValues m') {name : String} {current : Variable}
    (hm : m.find? name = some current) :
    ∃ current', m'.find? name = some current' ∧ current'.value = current.value := by
  have hvalue := h.value? name
  rw [hm, Option.map_some, eq_comm, Option.map_eq_some_iff] at hvalue
  exact hvalue

theorem SameValues.remove (h : m.SameValues m') (name : String) :
    (m.remove name).SameValues (m'.remove name) := by
  refine ⟨?_, fun other => ?_⟩
  · rw [Memory.remove, Memory.remove, h.contains_eq name, h.names]
    split
    · rfl
    · exact h.names
  · rw [find?_remove, find?_remove]
    split
    · rfl
    · exact h.value? other

/-- Whatever the lines, a variable that is given a value in both memories has the same one. -/
theorem SameValues.store (h : m.SameValues m') {name : String} {value : Int64} {line line' : Nat}
    {next next' : Memory} (hnext : m.assign name value line = .ok next)
    (hnext' : m'.assign name value line' = .ok next') :
    (next.stamp name line).SameValues (next'.stamp name line') := by
  refine ⟨?_, fun other => ?_⟩
  · rw [names_stamp_of_assign hnext, names_stamp_of_assign hnext', h.contains_eq name, h.names]
  · rw [find?_stamp_of_assign hnext, find?_stamp_of_assign hnext']
    split
    · rfl
    · exact h.value? other

end Memory

/-! ### Reports -/

namespace Report

variable {r r' : Report}

/-- The reports are alike but for lines. -/
structure Agrees (r r' : Report) : Prop where
  memory : r.memory.SameValues r'.memory
  output : r.output = r'.output
  ending : r.ending.unplaced = r'.ending.unplaced

theorem Agrees.finished {m m' : Memory} (h : m.SameValues m') :
    (finished m).Agrees (finished m') := ⟨h, rfl, rfl⟩

theorem Agrees.failed {m m' : Memory} {error error' : ProgramError} (h : m.SameValues m')
    (herror : error.unplaced = error'.unplaced) : (failed m error).Agrees (failed m' error') :=
  ⟨h, rfl, congrArg Ending.failed herror⟩

/-- What goes on from reports that agree, and agrees then, makes reports that agree. -/
theorem Agrees.andThen {f f' : Memory → Report} (h : r.Agrees r')
    (hf : ∀ {m m'}, m.SameValues m' → (f m).Agrees (f' m')) :
    (r.andThen f).Agrees (r'.andThen f') := by
  obtain ⟨memory, output, ending⟩ := r
  obtain ⟨memory', output', ending'⟩ := r'
  have hending : ending.unplaced = ending'.unplaced := h.ending
  cases ending with
  | finished =>
    cases ending' with
    | finished =>
      obtain ⟨hmemory, houtput, hafter⟩ := hf h.memory
      exact ⟨hmemory, congrArg₂ (· ++ ·) h.output houtput, hafter⟩
    | missingVariable => cases hending
    | failed error => cases hending
  | missingVariable =>
    cases ending' with
    | missingVariable => exact h
    | finished => cases hending
    | failed error => cases hending
  | failed error =>
    cases ending' with
    | failed error' => exact h
    | finished => cases hending
    | missingVariable => cases hending

end Report

/-! ### Statements -/

/-- The statement on another line. -/
def Statement.onLine (s : Statement) (line : Nat) : Statement := { s with line }

/-- What a line asks for, if it stands somewhere else. -/
def Line.onLine (line : Line) (index : Nat) : Line :=
  match line with
  | statement s => statement (s.onLine index)
  | other => other

theorem Line.ofWords_onLine (index index' : Nat) (words : List String) :
    ofWords index' words = (ofWords index words).map (onLine · index') := by
  rcases words with _ | ⟨keyword, _ | ⟨name, more⟩⟩
  · rfl
  · rfl
  · simp only [ofWords]
    split_ifs
    · rfl
    · rfl
    · cases Operation.ofKeyword? keyword with
      | none => rfl
      | some operation =>
        rcases more with _ | ⟨word, more⟩
        · rfl
        · dsimp only
          cases Numeral.integer? word <;> rfl

/-- A text that can be read asks for the same on every line. -/
theorem Line.parse_of_ok {text : String} {index : Nat} {line : Line}
    (h : parse text index = .ok line) (index' : Nat) :
    parse text index' = .ok (line.onLine index') := by
  rw [parse] at h
  rw [parse, ofWords_onLine index index']
  cases hwords : ofWords index (Text.words text) with
  | error fault =>
    rw [hwords] at h
    cases h
  | ok found =>
    rw [hwords] at h
    rw [← Except.ok.inj h]
    rfl

/-- A text that cannot be read has the same wrong with it on every line. -/
theorem Line.parse_of_error {text : String} {index : Nat} {error : ProgramError}
    (h : parse text index = .error error) (index' : Nat) :
    ∃ error', parse text index' = .error error' ∧ error.unplaced = error'.unplaced := by
  rw [parse] at h
  rw [parse, ofWords_onLine index index']
  cases hwords : ofWords index (Text.words text) with
  | error fault =>
    rw [hwords] at h
    rw [← Except.error.inj h]
    exact ⟨_, rfl, rfl⟩
  | ok found =>
    rw [hwords] at h
    cases h

namespace Structured

variable {m m' : Memory} {lines lines' : List String} {limit depth : Nat} {rest rest' : Numbered}

/-- What the log is told of a statement is no output. -/
theorem execStatement_eq (s : Statement) (m : Memory) :
    execStatement s m = .ofOutcome ((Interpreter.mk m true).perform s) := by
  have hlog : outputs [.executing s] = [] := rfl
  rw [execStatement, Interpreter.execute, Report.ofOutcome, Outcome.after_events, outputs_append,
    hlog, List.nil_append]
  rfl

theorem store_agrees (h : m.SameValues m') (s : Statement) (line : Nat) (value : Int64) :
    (Report.ofOutcome ((Interpreter.mk m true).store s value)).Agrees
      (.ofOutcome ((Interpreter.mk m' true).store (s.onLine line) value)) := by
  by_cases hvalue : value ≤ 0
  · simp only [Interpreter.store, Memory.assign_of_le hvalue]
    exact ⟨h, rfl, rfl⟩
  · obtain ⟨next, hnext⟩ := Memory.exists_assign hvalue m s.name s.line
    obtain ⟨next', hnext'⟩ := Memory.exists_assign hvalue m' s.name line
    have hassign : m'.assign (s.onLine line).name value (s.onLine line).line = .ok next' := hnext'
    simp only [Interpreter.store, hnext, hassign]
    exact ⟨h.store hnext hnext', rfl, rfl⟩

theorem perform_agrees (h : m.SameValues m') (s : Statement) (line : Nat) :
    (Report.ofOutcome ((Interpreter.mk m true).perform s)).Agrees
      (.ofOutcome ((Interpreter.mk m' true).perform (s.onLine line))) := by
  obtain ⟨operation, name, operand, index⟩ := s
  show (Report.ofOutcome ((Interpreter.mk m true).perform ⟨operation, name, operand, index⟩)).Agrees
    (.ofOutcome ((Interpreter.mk m' true).perform ⟨operation, name, operand, line⟩))
  have hreject : ∀ fault, (Report.ofOutcome
      ((Interpreter.mk m true).reject ⟨operation, name, operand, index⟩ fault)).Agrees
      (.ofOutcome ((Interpreter.mk m' true).reject ⟨operation, name, operand, line⟩ fault)) :=
    fun fault => ⟨h, rfl, rfl⟩
  by_cases hset : operation = .set
  · subst hset
    cases operand with
    | none => exact hreject _
    | some value => exact store_agrees h ⟨.set, name, some value, index⟩ line value
  · cases hm : m.find? name with
    | none =>
      have hm' := (h.find?_eq_none_iff name).1 hm
      have hmissing : ∀ {m : Memory} {index : Nat}, m.find? name = none →
          (Interpreter.mk m true).perform ⟨operation, name, operand, index⟩ =
            .done ⟨m, false⟩ [.variableMissing] := by
        intro m index hm
        cases operation <;> first | exact absurd rfl hset | simp only [Interpreter.perform, hm]
      rw [hmissing hm, hmissing hm']
      exact ⟨h, rfl, rfl⟩
    | some current =>
      obtain ⟨current', hm', hvalue⟩ := h.exists_find? hm
      cases operation with
      | set => exact absurd rfl hset
      | sub =>
        simp only [Interpreter.perform, hm, hm', hvalue]
        cases operand with
        | none => exact hreject _
        | some amount =>
          dsimp only
          cases Numeral.ofInt? (current.value.toInt - amount.toInt) with
          | none => exact hreject _
          | some difference =>
            exact store_agrees h ⟨.sub, name, some amount, index⟩ line difference
      | print =>
        simp only [Interpreter.perform, hm, hm', hvalue]
        cases operand with
        | none => exact ⟨h, rfl, rfl⟩
        | some value => exact hreject _
      | rem =>
        simp only [Interpreter.perform, hm, hm']
        cases operand with
        | none => exact ⟨h.remove name, rfl, rfl⟩
        | some value => exact hreject _

/-- A statement does the same on another line. -/
theorem execStatement_agrees (h : m.SameValues m') (s : Statement) (line : Nat) :
    (execStatement s m).Agrees (execStatement (s.onLine line) m') := by
  rw [execStatement_eq, execStatement_eq]
  exact perform_agrees h s line

/-! ### Blocks and the lines outside of definitions -/

/-- The texts in the block of a function, if it is defined. -/
def blockOf? (lines : List String) (name : String) : Option (List String) :=
  (lastDefinition? lines name).map fun header => (block lines header).map Prod.fst

/-- The lines outside of definitions: every header is taken out with its block. -/
def mainLines : Numbered → Numbered
  | [] => []
  | line :: rest =>
    if (FunctionTable.definedName? line.1).isSome then mainLines (rest.dropWhile isBody)
    else line :: mainLines rest
termination_by rest => rest.length
decreasing_by
  · exact Nat.lt_succ_of_le (List.dropWhile_sublist _).length_le
  · exact Nat.lt_succ_self _

theorem definedName?_of_mem_mainLines {line : String × Nat} (h : line ∈ mainLines rest) :
    FunctionTable.definedName? line.1 = none := by
  fun_induction mainLines rest with
  | case1 => cases h
  | case2 first rest hdef ih => exact ih h
  | case3 first rest hdef ih =>
    rcases List.mem_cons.1 h with rfl | h
    · rwa [Option.not_isSome_iff_eq_none] at hdef
    · exact ih h

/-- Outside of calls, definitions can be taken out. -/
theorem exec_mainLines (rest : Numbered) (m : Memory) :
    exec lines limit 0 rest m = exec lines limit 0 (mainLines rest) m := by
  fun_induction mainLines rest generalizing m with
  | case1 => rfl
  | case2 first rest hdef ih =>
    obtain ⟨name, hname⟩ := Option.isSome_iff_exists.1 hdef
    have hline : Line.parse first.1 first.2 = .ok (.definition name) :=
      FunctionTable.definedName?_eq_some_iff.1 hname
    rw [← ih, exec]
    simp only [hline, if_true]
  | case3 first rest hdef ih =>
    obtain ⟨text, index⟩ := first
    rw [exec, exec]
    rcases hline : Line.parse text index with error | name | name | s
    · rfl
    · exact absurd (Option.isSome_of_eq_some (FunctionTable.definedName?_eq_some_iff.2 hline)) hdef
    · simp only [ih]
    · simp only [ih]

/-! ### Carrying out the same lines elsewhere -/

/-- The two programs have blocks of the same texts for a function that is defined. -/
theorem exists_block_of_blockOf? {name : String} {header : Nat}
    (hblocks : blockOf? lines name = blockOf? lines' name)
    (hname : lastDefinition? lines name = some header) :
    ∃ header', lastDefinition? lines' name = some header' ∧
      (block lines header).map Prod.fst = (block lines' header').map Prod.fst := by
  rw [blockOf?, hname, Option.map_some, eq_comm, blockOf?, Option.map_eq_some_iff] at hblocks
  obtain ⟨header', hname', hblock⟩ := hblocks
  exact ⟨header', hname', hblock.symm⟩

/-- Two programs with the same block for every function carry out the same lines alike, on whatever
lines these stand. Outside of calls there must be no definition among them. -/
theorem exec_agrees (hblocks : ∀ name, blockOf? lines name = blockOf? lines' name)
    (hmain : depth = 0 → ∀ line ∈ rest, FunctionTable.definedName? line.1 = none)
    (hrest : rest.map Prod.fst = rest'.map Prod.fst) (h : m.SameValues m') :
    (exec lines limit depth rest m).Agrees (exec lines' limit depth rest' m') := by
  -- one case for each thing that a line can be; a call uses the hypothesis twice, once for the
  -- block of the function and once for the lines behind the call
  fun_induction exec lines limit depth rest m generalizing rest' m' with
  | case1 depth m =>
    obtain rfl := List.map_eq_nil_iff.1 hrest.symm
    rw [exec]
    exact .finished h
  | case2 depth text index rest m error hline =>
    obtain ⟨⟨text, index'⟩, rest', rfl, rfl, htail⟩ := List.map_eq_cons_iff.1 hrest.symm
    obtain ⟨error', hline', herror⟩ := Line.parse_of_error hline index'
    rw [exec]
    simp only [hline']
    exact .failed h herror
  | case3 text index rest m name hline ih =>
    have hdef := FunctionTable.definedName?_eq_some_iff.2 hline
    have hnone := hmain rfl _ List.mem_cons_self
    rw [hdef] at hnone
    cases hnone
  | case4 depth text index rest m name hline hdepth =>
    obtain ⟨⟨text, index'⟩, rest', rfl, rfl, htail⟩ := List.map_eq_cons_iff.1 hrest.symm
    rw [exec]
    simp only [Line.parse_of_ok hline index', Line.onLine, if_neg hdepth]
    exact .finished h
  | case5 depth text index rest m s hline ih =>
    obtain ⟨⟨text, index'⟩, rest', rfl, rfl, htail⟩ := List.map_eq_cons_iff.1 hrest.symm
    have hline' : Line.parse text index' = .ok (.statement (s.onLine index')) :=
      Line.parse_of_ok hline index'
    have hright : exec lines' limit depth ((text, index') :: rest') m' =
        (execStatement (s.onLine index') m').andThen (exec lines' limit depth rest') := by
      rw [exec]
      simp only [hline']
    rw [hright]
    refine (execStatement_agrees h s index').andThen fun hm => ?_
    exact ih _ (fun hdepth line hmem => hmain hdepth line (List.mem_cons_of_mem _ hmem))
      htail.symm hm
  | case6 depth text index rest m name hline hname =>
    obtain ⟨⟨text, index'⟩, rest', rfl, rfl, htail⟩ := List.map_eq_cons_iff.1 hrest.symm
    have hname' : lastDefinition? lines' name = none := by
      have hblock := hblocks name
      rwa [blockOf?, hname, Option.map_none, eq_comm, blockOf?, Option.map_eq_none_iff] at hblock
    rw [exec]
    simp only [Line.parse_of_ok hline index', Line.onLine, hname']
    exact .failed h rfl
  | case7 depth text index rest m name hline header hname hlimit =>
    obtain ⟨⟨text, index'⟩, rest', rfl, rfl, htail⟩ := List.map_eq_cons_iff.1 hrest.symm
    obtain ⟨header', hname', -⟩ := exists_block_of_blockOf? (hblocks name) hname
    rw [exec]
    simp only [Line.parse_of_ok hline index', Line.onLine, hname', if_pos hlimit]
    exact .failed h rfl
  | case8 depth text index rest m name hline header hname hlimit ihblock ihrest =>
    obtain ⟨⟨text, index'⟩, rest', rfl, rfl, htail⟩ := List.map_eq_cons_iff.1 hrest.symm
    obtain ⟨header', hname', hblock⟩ := exists_block_of_blockOf? (hblocks name) hname
    have hline' : Line.parse text index' = .ok (.call name) := Line.parse_of_ok hline index'
    have hright : exec lines' limit depth ((text, index') :: rest') m' =
        (exec lines' limit (depth + 1) (block lines' header') m').andThen
          (exec lines' limit depth rest') := by
      rw [exec]
      simp only [hline', hname', if_neg hlimit]
    rw [hright]
    have hinner := ihblock (fun hzero => absurd hzero (Nat.succ_ne_zero depth)) hblock h
    refine hinner.andThen fun hm => ?_
    exact ihrest _ (fun hdepth line hmem => hmain hdepth line (List.mem_cons_of_mem _ hmem))
      htail.symm hm

end Structured

end LineDebugger
