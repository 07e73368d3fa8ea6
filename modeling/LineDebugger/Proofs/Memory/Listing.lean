import LineDebugger.Outcome
import LineDebugger.Proofs.Memory
import Mathlib.Data.List.Nodup

/-!
# Memory as a list of variables

Memory is kept in two parts, and neither part can see a fault of the other. A name that leads to no
variable would be counted and not listed; a variable whose name is missing from the order would be
found and not listed; a name that stands in the order twice would be listed twice. So it has to be
shown that no change of memory lets the parts drift apart, and for that it is best to say what both
of them together stand for.

They stand for a plain list, the variables with their names in the order in which they came. On this
list every change is what one would write down for it: a new variable is put at the end, an old one
is altered where it stands, and a removed one is taken out. Nothing has to be kept in step there.
That memory follows the list, whatever is done to it, is the whole of the argument. What the two
parts have to do with each other is then read off the list.

## Main definitions

* `Memory.Change`, `Memory.apply` — a change of memory, and making it
* `Listing`, `Listing.apply` — a list of variables, and the same change made there
* `Memory.Represents` — memory stands for a list

## Main results

* `Memory.Represents.apply` — a change leads from a memory and its list to a memory and its list
* `Memory.Represents.applyAll` — and so do any changes
* `Memory.agrees_with_listing` — what this says about the two parts of memory
-/

namespace LineDebugger

/-- A change of memory. -/
inductive Memory.Change
  /-- Give a name a value. Only a new variable gets the line. -/
  | assign (name : String) (value : Int64) (line : Nat)
  /-- Mark a variable as changed on a line. -/
  | stamp (name : String) (line : Nat)
  /-- Forget a variable. -/
  | remove (name : String)
  /-- Forget all variables. -/
  | clear

/-- Is the variable of this name one that the change is about? -/
def Memory.Change.concerns : Memory.Change → String → Bool
  | assign name _ _, other | stamp name _, other | remove name, other => other == name
  | clear, _ => true

/-- Makes a change. A change that fails leaves memory as it is. -/
def Memory.apply (m : Memory) : Memory.Change → Outcome Memory ProgramError
  | .assign name value line =>
    match m.assign name value line with
    | .ok next => .quiet next
    | .error error => .fail m error
  | .stamp name line => .quiet (m.stamp name line)
  | .remove name => .quiet (m.remove name)
  | .clear => .quiet .empty

/-- Makes some changes, one after the other. -/
def Memory.applyAll (m : Memory) (changes : List Memory.Change) : Memory :=
  changes.foldl (fun m change => (m.apply change).state) m

/-- Variables with their names, oldest first. -/
abbrev Listing := List (String × Variable)

namespace Listing

/-- The names, oldest first. -/
def names (rows : Listing) : List String := rows.map Prod.fst

/-- Alters the variable of a name where it stands. -/
def update (rows : Listing) (name : String) (f : Variable → Variable) : Listing :=
  rows.map fun row => (row.1, if row.1 = name then f row.2 else row.2)

/-- Makes a change. -/
def apply (rows : Listing) : Memory.Change → Outcome Listing ProgramError
  | .assign name value line =>
    if value.toInt ≤ 0 then .fail rows (.invalidValue name value line)
    else if name ∈ rows.names then .quiet (rows.update name ({ · with value }))
    else .quiet (rows ++ [(name, ⟨value, line⟩)])
  | .stamp name line => .quiet (rows.update name ({ · with line }))
  | .remove name => .quiet (rows.filter (·.1 != name))
  | .clear => .quiet []

/-- Makes some changes, one after the other. -/
def applyAll (rows : Listing) (changes : List Memory.Change) : Listing :=
  changes.foldl (fun rows change => (rows.apply change).state) rows

/-- All values are positive. -/
def Positive (rows : Listing) : Prop := ∀ row ∈ rows, 1 ≤ row.2.value.toInt

variable {rows : Listing} {name other : String} {f : Variable → Variable} {v : Variable}

@[simp] theorem names_update : (rows.update name f).names = rows.names := by
  rw [names, names, update, List.map_map]
  rfl

theorem mem_names_iff : name ∈ rows.names ↔ ∃ v, (name, v) ∈ rows := by
  rw [names, List.mem_map]
  constructor
  · rintro ⟨row, hrow, rfl⟩
    exact ⟨row.2, hrow⟩
  · rintro ⟨v, hv⟩
    exact ⟨_, hv, rfl⟩

theorem mem_update_iff :
    (other, v) ∈ rows.update name f ↔
      ∃ old, (other, old) ∈ rows ∧ (if other = name then f old else old) = v := by
  rw [update, List.mem_map]
  constructor
  · rintro ⟨row, hrow, heq⟩
    obtain ⟨rfl, rfl⟩ := Prod.mk.inj heq
    exact ⟨row.2, hrow, rfl⟩
  · rintro ⟨old, hold, rfl⟩
    exact ⟨_, hold, rfl⟩

/-- An altered variable stands where it stood, and all others are as they were. -/
theorem filter_update (rows : Listing) (name : String) (f : Variable → Variable) :
    (rows.update name f).filter (·.1 != name) = rows.filter (·.1 != name) := by
  induction rows with
  | nil => rfl
  | cons row rows ih =>
    rw [update] at ih ⊢
    rw [List.map_cons]
    by_cases hname : row.1 = name
    · -- The altered row is the one that the filter drops, before and after.
      rw [List.filter_cons_of_neg (by simp [hname]), List.filter_cons_of_neg (by simp [hname]), ih]
    · rw [List.filter_cons_of_pos (by simp [hname]), List.filter_cons_of_pos (by simp [hname]), ih,
        if_neg hname]

/-- A change keeps the variables that it is not about, with their values, their lines and their
order. -/
theorem apply_others (rows : Listing) (change : Memory.Change) :
    (rows.apply change).state.filter (!change.concerns ·.1) =
      rows.filter (!change.concerns ·.1) := by
  cases change with
  | assign name value line =>
    rw [apply]
    split
    · rfl
    · split
      · exact filter_update rows name ({ · with value })
      · show (rows ++ [(name, _)]).filter (·.1 != name) = rows.filter (·.1 != name)
        simp
  | stamp name line => exact filter_update rows name ({ · with line })
  | remove name =>
    show (rows.filter (·.1 != name)).filter (·.1 != name) = rows.filter (·.1 != name)
    rw [List.filter_filter]
    simp only [Bool.and_self]
  | clear =>
    symm
    exact List.filter_eq_nil_iff.2 fun row _ => Bool.false_ne_true

theorem Positive.update (h : rows.Positive) (hf : ∀ v, 1 ≤ v.value.toInt → 1 ≤ (f v).value.toInt) :
    (rows.update name f).Positive := by
  rintro ⟨other, v⟩ hrow
  obtain ⟨old, hold, rfl⟩ := mem_update_iff.1 hrow
  have hpos : 1 ≤ old.value.toInt := h _ hold
  by_cases hname : other = name
  · simpa [hname] using hf old hpos
  · simpa [hname] using hpos

/-- A change keeps all values positive. -/
theorem Positive.apply (h : rows.Positive) (change : Memory.Change) :
    (rows.apply change).state.Positive := by
  cases change with
  | assign name value line =>
    rw [Listing.apply]
    split
    · exact h
    · next hpos =>
      have hone : 1 ≤ value.toInt := by omega
      split
      · show (rows.update name ({ · with value })).Positive
        exact h.update fun _ _ => hone
      · rintro row hrow
        rcases List.mem_append.1 hrow with hold | hnew
        · exact h row hold
        · rw [List.mem_singleton.1 hnew]
          exact hone
  | stamp name line =>
    show (rows.update name ({ · with line })).Positive
    exact h.update fun _ hold => hold
  | remove name => exact fun row hrow => h row (List.mem_filter.1 hrow).1
  | clear => exact fun row hrow => absurd hrow List.not_mem_nil

/-- Any changes keep all values positive. -/
theorem Positive.applyAll (h : rows.Positive) (changes : List Memory.Change) :
    (rows.applyAll changes).Positive := by
  induction changes generalizing rows with
  | nil => exact h
  | cons change changes ih => exact ih (h.apply change)

theorem positive_nil : Positive [] := fun _ hrow => absurd hrow List.not_mem_nil

/-- Altering a variable twice is altering it once. -/
theorem update_update (rows : Listing) (name : String) (f g : Variable → Variable) :
    (rows.update name f).update name g = rows.update name (g ∘ f) := by
  rw [update, update, update, List.map_map]
  apply List.map_congr_left
  intro row _
  by_cases hname : row.1 = name
  · simp [hname]
  · simp [hname]

end Listing

namespace Memory

/-- Memory stands for a list: the names are those of the list, in its order, none of them comes
twice, and each leads to the variable that stands beside it. -/
structure Represents (m : Memory) (rows : Listing) : Prop where
  names : m.names = rows.names
  nodup : m.names.Nodup
  find? : ∀ name v, m.find? name = some v ↔ (name, v) ∈ rows

variable {m next : Memory} {rows : Listing} {name : String} {value : Int64} {line : Nat}
  {f : Variable → Variable}

/-- A change that fails leaves memory as it is. -/
theorem apply_state_of_error? {change : Change} {error : ProgramError}
    (h : (m.apply change).error? = some error) : (m.apply change).state = m := by
  cases change with
  | assign name value line =>
    rw [apply] at h ⊢
    cases hassign : m.assign name value line with
    | error fault => rfl
    | ok next =>
      rw [hassign] at h
      cases h
  | _ => cases h

/-- Only a name without a variable is added to the order, and comes last. -/
theorem names_of_assign (h : m.assign name value line = .ok next) :
    next.names = if m.contains name then m.names else m.names ++ [name] := by
  rw [← names_stamp next name line, names_stamp_of_assign h]

namespace Represents

theorem empty : Memory.empty.Represents [] where
  names := rfl
  nodup := List.nodup_nil
  find? name v := by simp

theorem contains_iff (h : m.Represents rows) : m.contains name ↔ name ∈ rows.names := by
  rw [Listing.mem_names_iff, contains, Option.isSome_iff_exists]
  exact exists_congr fun v => h.find? name v

theorem find?_eq_none (h : m.Represents rows) (hname : name ∉ rows.names) :
    m.find? name = none := by
  rw [← h.contains_iff, contains] at hname
  simpa using hname

/-- To alter a variable in place is to alter it in the list. -/
theorem update (h : m.Represents rows) (hnames : next.names = m.names)
    (hfind : ∀ other, next.find? other =
      if name = other then (m.find? other).map f else m.find? other) :
    next.Represents (rows.update name f) where
  names := by rw [hnames, h.names, Listing.names_update]
  nodup := by rw [hnames]; exact h.nodup
  find? other v := by
    simp only [hfind, Listing.mem_update_iff, ← h.find?]
    by_cases hother : name = other
    · simp [hother]
    · simp [hother, Ne.symm hother]

theorem stamp (h : m.Represents rows) (name : String) (line : Nat) :
    (m.stamp name line).Represents (rows.update name ({ · with line })) :=
  h.update (names_stamp m name line) fun other => find?_stamp m name other line

/-- An old variable gets a value in place. -/
theorem assign_of_mem (h : m.Represents rows) (hassign : m.assign name value line = .ok next)
    (hname : name ∈ rows.names) : next.Represents (rows.update name ({ · with value })) := by
  have hcontains := h.contains_iff.2 hname
  apply h.update
  · rw [names_of_assign hassign, if_pos hcontains]
  · intro other
    rw [find?_of_assign hassign]
    obtain ⟨old, hold⟩ := Option.isSome_iff_exists.1 hcontains
    by_cases hother : name = other
    · subst hother
      simp [hold]
    · simp [hother]

/-- A new variable comes last. -/
theorem assign_of_not_mem (h : m.Represents rows) (hassign : m.assign name value line = .ok next)
    (hname : name ∉ rows.names) : next.Represents (rows ++ [(name, ⟨value, line⟩)]) where
  names := by
    rw [names_of_assign hassign, if_neg (mt h.contains_iff.1 hname), h.names, Listing.names,
      Listing.names, List.map_append]
    rfl
  nodup := by
    rw [names_of_assign hassign, if_neg (mt h.contains_iff.1 hname), ← List.concat_eq_append]
    refine h.nodup.concat ?_
    rwa [h.names]
  find? other v := by
    rw [find?_of_assign hassign, h.find?_eq_none hname, List.mem_append, ← h.find?,
      List.mem_singleton]
    by_cases hother : name = other
    · subst hother
      simp [h.find?_eq_none hname, eq_comm]
    · simp [hother, Ne.symm hother]

theorem remove (h : m.Represents rows) (name : String) :
    (m.remove name).Represents (rows.filter (·.1 != name)) := by
  have hnames : (m.remove name).names = m.names.filter (· != name) := by
    rw [Memory.remove]
    split
    · rfl
    · next hno =>
      -- A name without a variable does not stand in the order either.
      rw [List.filter_eq_self.2]
      intro other hother
      rw [bne_iff_ne]
      rintro rfl
      exact hno (h.contains_iff.2 (h.names ▸ hother))
  constructor
  · rw [hnames, h.names, Listing.names, List.filter_map]
    rfl
  · rw [hnames]
    exact h.nodup.filter _
  · intro other v
    rw [find?_remove, List.mem_filter, ← h.find?, bne_iff_ne]
    by_cases hother : name = other
    · simp [hother]
    · simp [hother, Ne.symm hother]

/-- A change that fails for memory fails for its list, with the same error, and one that succeeds
leads to a memory and its list. -/
theorem apply (h : m.Represents rows) (change : Change) :
    (m.apply change).error? = (rows.apply change).error? ∧
      (m.apply change).state.Represents (rows.apply change).state := by
  cases change with
  | assign name value line =>
    rw [Memory.apply, Listing.apply]
    by_cases hle : value.toInt ≤ 0
    · rw [if_pos hle, assign_of_le (Int64.le_iff_toInt_le.2 hle)]
      exact ⟨rfl, h⟩
    · obtain ⟨next, hassign⟩ := exists_assign (mt Int64.le_iff_toInt_le.1 hle) m name line
      rw [if_neg hle, hassign]
      by_cases hname : name ∈ rows.names
      · rw [if_pos hname]
        exact ⟨rfl, h.assign_of_mem hassign hname⟩
      · rw [if_neg hname]
        exact ⟨rfl, h.assign_of_not_mem hassign hname⟩
  | stamp name line => exact ⟨rfl, h.stamp name line⟩
  | remove name => exact ⟨rfl, h.remove name⟩
  | clear => exact ⟨rfl, empty⟩

/-- Memory still stands for its list after any changes. -/
theorem applyAll (h : m.Represents rows) (changes : List Change) :
    (m.applyAll changes).Represents (rows.applyAll changes) := by
  induction changes generalizing m rows with
  | nil => exact h
  | cons change changes ih => exact ih (h.apply change).2

/-- The variables are listed as they stand in the list. -/
theorem toList_eq (h : m.Represents rows) : m.toList = rows := by
  rw [toList, h.names, Listing.names, List.filterMap_map]
  have hrows : ∀ row ∈ rows,
      ((fun name => (m.find? name).map (name, ·)) ∘ Prod.fst) row = some row := by
    intro row hrow
    rw [Function.comp_apply, (h.find? row.1 row.2).2 hrow]
    rfl
  rw [List.filterMap_congr hrows]
  exact List.filterMap_some

/-- The order holds the names of the index, each once. -/
theorem perm_keys (h : m.Represents rows) : m.names.Perm m.index.keys := by
  rw [List.perm_ext_iff_of_nodup h.nodup Std.ExtTreeMap.nodup_keys]
  intro name
  rw [Std.ExtTreeMap.mem_keys, Std.ExtTreeMap.mem_iff_isSome_getElem?, h.names,
    ← h.contains_iff]
  rfl

/-- Storing a value and stamping the variable replaces an old variable where it stands. -/
theorem toList_stamp_of_assign (h : m.Represents rows)
    (hassign : m.assign name value line = .ok next) (hname : name ∈ rows.names) :
    (next.stamp name line).toList = rows.update name fun _ => ⟨value, line⟩ := by
  rw [((h.assign_of_mem hassign hname).stamp name line).toList_eq, Listing.update_update]
  rfl

end Represents

/-- **Memory is a list of variables.** After any changes of empty memory it stands for the list that
the same changes make of the empty list, and fails with the next change exactly if the list does,
with the same error; memory is as it was then. So the order holds the names of the index and each of
them once, all variables are listed in the order in which they came, both parts agree on how many
there are, and every value is positive. The next change leaves all variables that it is not about as
they are, with their values, their lines and their order. -/
theorem agrees_with_listing (changes : List Change) (change : Change) :
    let m := Memory.empty.applyAll changes
    let rows := Listing.applyAll [] changes
    m.Represents rows ∧
      ((m.apply change).error? = (rows.apply change).error? ∧
        (m.apply change).state.Represents (rows.apply change).state ∧
          ∀ error, (m.apply change).error? = some error → (m.apply change).state = m) ∧
        (m.names.Nodup ∧ m.names.Perm m.index.keys ∧ m.toList = rows ∧
          m.size = m.index.size ∧ m.isEmpty = m.index.isEmpty) ∧
          (∀ entry ∈ m.toList, 1 ≤ entry.2.value.toInt) ∧
            (m.apply change).state.toList.filter (!change.concerns ·.1) =
              m.toList.filter (!change.concerns ·.1) := by
  intro m rows
  have h : m.Represents rows := Represents.empty.applyAll changes
  obtain ⟨herror, hnext⟩ := h.apply change
  refine ⟨h, ⟨herror, hnext, fun error => apply_state_of_error?⟩,
    ⟨h.nodup, h.perm_keys, h.toList_eq, ?_, ?_⟩, ?_, ?_⟩
  · rw [size, h.perm_keys.length_eq, Std.ExtTreeMap.length_keys]
  · rw [isEmpty, h.perm_keys.isEmpty_eq, Std.ExtTreeMap.isEmpty_keys]
  · rw [h.toList_eq]
    exact Listing.positive_nil.applyAll changes
  · rw [h.toList_eq, hnext.toList_eq]
    exact rows.apply_others change

/-- A new value leaves a variable where it is, but a variable that is removed and set again comes
last. -/
example : (Memory.empty.applyAll [.assign "b" 1 0, .assign "a" 2 1, .assign "b" 3 2, .remove "b",
    .assign "b" 4 3]).toList = [("a", ⟨2, 1⟩), ("b", ⟨4, 3⟩)] := by
  decide +kernel

end Memory

end LineDebugger
