import LineDebugger.Text.InputLine

/-!
# Lines arrive as they were typed

Input is cut where a byte is that of a newline, before anything is decoded. In UTF-8 this byte is
part of no character but the newline, so lines without a newline in them that are typed one after
another arrive as they were.

## Main definitions

* `InputLine.typed` — the bytes of some lines, each ended by a newline
* `InputLine.entered` — a line as it arrives then

## Main results

* `InputLine.ofBytes_typed` — cutting them gives the lines back
* `InputLine.stripped?_entered` — a line that ends in no carriage return loses nothing
-/

namespace LineDebugger

namespace InputLine

/-- The bytes of a text. -/
def bytes (text : String) : List UInt8 := text.toUTF8.data.toList

/-- The bytes of some lines, each ended by a newline. -/
def typed (lines : List String) : List UInt8 := lines.flatMap fun line => bytes (line ++ "\n")

/-- A line as it arrives when it was ended by a newline. -/
def entered (line : String) : InputLine := ⟨some line, true⟩

variable {line : String} {lines : List String}

theorem bytes_eq_flatMap (text : String) :
    bytes text = text.toList.flatMap String.utf8EncodeChar := by
  rw [bytes, String.toUTF8_eq_toByteArray, ← String.ofList_toList (s := text),
    String.toByteArray_ofList, List.utf8Encode, List.data_toByteArray, String.ofList_toList]

theorem bytes_append_newline (text : String) : bytes (text ++ "\n") = bytes text ++ [10] := by
  rw [bytes_eq_flatMap, bytes_eq_flatMap, String.toList_append, List.flatMap_append]
  rfl

@[simp] theorem decode?_bytes (text : String) : decode? (bytes text) = some text := by
  rw [decode?, bytes, Array.toArray_toList]
  show String.fromUTF8? text.toByteArray = _
  rw [String.fromUTF8?, dif_pos text.isValidUTF8]
  rfl

/-- An ASCII byte stands in the encoding of no character but its own: the bytes of a character
outside ASCII are all 128 or more. -/
theorem toNat_of_mem_utf8EncodeChar {c : Char} {n : Nat} (hn : n < 128)
    (h : UInt8.ofNat n ∈ String.utf8EncodeChar c) : c.toNat = n := by
  have hbyte : ∀ m < 256, UInt8.ofNat n = UInt8.ofNat m → m = n := by
    intro m hm heq
    have hvalue := congrArg UInt8.toNat heq
    simp only [UInt8.toNat_ofNat'] at hvalue
    omega
  rw [String.utf8EncodeChar.eq_1] at h
  split at h
  · next hascii =>
    have hsmall : c.val.toNat < 256 := by omega
    exact hbyte _ hsmall (List.mem_singleton.1 h)
  · exfalso
    split at h
    · simp only [List.mem_cons, List.not_mem_nil, or_false] at h
      rcases h with h | h <;> have := hbyte _ (by omega) h <;> omega
    · split at h
      · simp only [List.mem_cons, List.not_mem_nil, or_false] at h
        rcases h with h | h | h <;> have := hbyte _ (by omega) h <;> omega
      · simp only [List.mem_cons, List.not_mem_nil, or_false] at h
        rcases h with h | h | h | h <;> have := hbyte _ (by omega) h <;> omega

theorem newline_not_mem_bytes (h : '\n' ∉ line.toList) : 10 ∉ bytes line := by
  rw [bytes_eq_flatMap]
  intro hmem
  obtain ⟨c, hc, hbyte⟩ := List.mem_flatMap.1 hmem
  have hcode : c.toNat = '\n'.toNat := toNat_of_mem_utf8EncodeChar (n := 10) (by decide) hbyte
  exact h (Char.toNat_inj.1 hcode ▸ hc)

/-- Behind the last newline there is an empty piece. -/
theorem splitOn_typed (h : ∀ line ∈ lines, '\n' ∉ line.toList) :
    (typed lines).splitOn 10 = lines.map bytes ++ [[]] := by
  induction lines with
  | nil => rfl
  | cons line lines ih =>
    obtain ⟨hfirst, hrest⟩ := List.forall_mem_cons.1 h
    have hline : ∀ b ∈ bytes line, (b == (10 : UInt8)) = false := by
      intro b hb
      rw [beq_eq_false_iff_ne]
      rintro rfl
      exact newline_not_mem_bytes hfirst hb
    calc (typed (line :: lines)).splitOn 10
        = (bytes line ++ 10 :: typed lines).splitOnP (· == 10) := by
          rw [List.splitOn, typed, List.flatMap_cons, bytes_append_newline, List.append_assoc]
          rfl
      _ = bytes line :: (typed lines).splitOn 10 :=
          List.splitOnP_append_cons_of_forall_mem hline 10 rfl _
      _ = (line :: lines).map bytes ++ [[]] := by
          rw [ih hrest]
          rfl

/-- Lines without a newline in them arrive as they were typed. -/
theorem ofBytes_typed (h : ∀ line ∈ lines, '\n' ∉ line.toList) :
    ofBytes (typed lines) = lines.map entered := by
  rw [ofBytes, splitOn_typed h]
  simp [Function.comp_def, entered]

/-- A line that ends in no carriage return loses nothing. -/
theorem stripped?_entered (h : line.toList.getLast? ≠ some '\r') :
    (entered line).stripped? = some line := by
  have hkeep : line.toList.reverse.dropWhile (· == '\r') = line.toList.reverse := by
    rw [← List.head?_reverse] at h
    cases hlast : line.toList.reverse with
    | nil => rfl
    | cons c cs =>
      rw [hlast] at h
      exact List.dropWhile_cons_of_neg (by simpa using h)
  rw [stripped?, entered, Option.map_some, hkeep, List.reverse_reverse, String.ofList_toList]

end InputLine

end LineDebugger
