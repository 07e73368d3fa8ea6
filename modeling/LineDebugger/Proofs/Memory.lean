import LineDebugger.Memory

/-!
# Variables after a change

A variable is changed in two strokes. Storing a value leaves the line of a variable that was there,
and stamping leaves its value; only both together make it a variable with the new value and the new
line. Nobody ever sees memory between the two, so what is stated here is what they come to: the
variable of that name is new in both parts, and every other one is as it was.

## Main results

* `Memory.assign_of_le`, `Memory.exists_assign` — which values can be stored
* `Memory.find?_stamp_of_assign`, `Memory.names_stamp_of_assign` — storing and stamping
* `Memory.find?_of_mem_toList` — what is listed is in memory
-/

namespace LineDebugger

namespace Memory

variable {m next : Memory} {name : String} {value : Int64} {line : Nat}

/-- A number that is not positive is refused. -/
theorem assign_of_le (h : value ≤ 0) (m : Memory) (name : String) (line : Nat) :
    m.assign name value line = .error (.invalidValue name value line) := by
  rw [assign, if_pos h]

/-- Any other number is stored. -/
theorem exists_assign (h : ¬value ≤ 0) (m : Memory) (name : String) (line : Nat) :
    ∃ next, m.assign name value line = .ok next := by
  rw [assign, if_neg h]
  cases m.find? name with
  | some old => exact ⟨_, rfl⟩
  | none => exact ⟨_, rfl⟩

theorem not_le_of_assign (h : m.assign name value line = .ok next) : ¬value ≤ 0 := by
  intro hle
  rw [assign_of_le hle] at h
  cases h

/-- Storing a value gives the variable that value. -/
theorem find?_of_assign (h : m.assign name value line = .ok next) (other : String) :
    next.find? other =
      if name = other then some ⟨value, (m.find? name).elim line Variable.line⟩
      else m.find? other := by
  rw [assign, if_neg (not_le_of_assign h)] at h
  split at h
  · next old hold =>
    obtain rfl := Except.ok.inj h
    rw [hold, find?, Std.ExtTreeMap.getElem?_insert]
    by_cases hother : name = other <;> simp [hother, find?]
  · next hnone =>
    obtain rfl := Except.ok.inj h
    rw [hnone, find?, Std.ExtTreeMap.getElem?_insert]
    by_cases hother : name = other <;> simp [hother, find?]

/-- Storing a value and stamping the variable makes it one with that value and that line, and
leaves the others alone. -/
theorem find?_stamp_of_assign (h : m.assign name value line = .ok next) (other : String) :
    (next.stamp name line).find? other =
      if name = other then some ⟨value, line⟩ else m.find? other := by
  rw [find?_stamp, find?_of_assign h]
  by_cases hother : name = other
  · rw [if_pos hother, if_pos hother, if_pos hother]
    rfl
  · rw [if_neg hother, if_neg hother, if_neg hother]

theorem names_stamp (m : Memory) (name : String) (line : Nat) :
    (m.stamp name line).names = m.names := by
  rw [stamp]
  split <;> rfl

/-- Only a variable that was not there changes the order, and comes last. -/
theorem names_stamp_of_assign (h : m.assign name value line = .ok next) :
    (next.stamp name line).names = if m.contains name then m.names else m.names ++ [name] := by
  rw [assign, if_neg (not_le_of_assign h)] at h
  rw [names_stamp, contains]
  cases hm : m.find? name with
  | some old =>
    rw [hm] at h
    obtain rfl := Except.ok.inj h
    rfl
  | none =>
    rw [hm] at h
    obtain rfl := Except.ok.inj h
    rfl

/-- What is listed is in memory. -/
theorem find?_of_mem_toList {v : Variable} (h : (name, v) ∈ m.toList) : m.find? name = some v := by
  obtain ⟨listed, -, hmap⟩ := List.mem_filterMap.1 h
  obtain ⟨found, hfound, heq⟩ := Option.map_eq_some_iff.1 hmap
  obtain ⟨rfl, rfl⟩ := Prod.mk.inj heq
  exact hfound

end Memory

end LineDebugger
