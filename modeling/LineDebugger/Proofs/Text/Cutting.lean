import LineDebugger.Proofs.Text.InputLine

/-!
# Where lines are cut

A line is cut off its newline, and off the carriage return before that, after it has been decoded
or before; it is the same line. The carriage return is a byte of its own that no other character
has, so it can be taken off the bytes, and what is left is text if and only if it was text before.
The description here takes it off first. No decoding then stands between the bytes of an input and
the places where it is cut.

An input that ends in a newline leaves nothing behind for what comes after it. So its lines are
there whatever follows, and are followed by the lines of that.

## Main definitions

* `InputLine.cut` — the lines of an input as bytes

## Main results

* `InputLine.decode?_eq_some_iff` — text is what some text was encoded as
* `InputLine.map_unwrapped?_ofBytes` — the lines are those of the bytes, each decoded by itself
* `InputLine.ofBytes_append` — the lines of one input after another
-/

namespace LineDebugger

namespace InputLine

variable {line : List UInt8} {text : String}

/-- The bytes of a line without a carriage return at their end. -/
def withoutReturn (line : List UInt8) : List UInt8 :=
  if line.getLast? = some 13 then line.dropLast else line

/-- The lines of an input as bytes: what stands before each newline, without a carriage return at
its end, and what stands behind the last newline as it is, unless nothing does. -/
def cut (input : List UInt8) : List (List UInt8) :=
  let pieces := input.splitOn 10
  pieces.dropLast.map withoutReturn ++ pieces.getLast?.toList.filter (!·.isEmpty)

/-- Bytes are text if and only if some text has these bytes. -/
theorem decode?_eq_some_iff : decode? line = some text ↔ line = bytes text := by
  constructor
  · intro h
    rw [decode?, String.fromUTF8?] at h
    split at h
    · rw [← Option.some.inj h]
      rfl
    · cases h
  · rintro rfl
    exact decode?_bytes text

theorem decode?_eq_none_iff : decode? line = none ↔ ∀ text, line ≠ bytes text := by
  rw [Option.eq_none_iff_forall_ne_some]
  exact forall_congr' fun text => not_congr decode?_eq_some_iff

theorem bytes_append_return (text : String) : bytes (text ++ "\r") = bytes text ++ [13] := by
  rw [bytes_eq_flatMap, bytes_eq_flatMap, String.toList_append, List.flatMap_append]
  rfl

/-- A text whose last byte is that of the carriage return ends in one. -/
theorem eq_append_return_of_bytes (h : bytes text = line ++ [13]) :
    ∃ before, text = before ++ "\r" ∧ line = bytes before := by
  rcases List.eq_nil_or_concat text.toList with hnil | ⟨cs, c, hconcat⟩
  · rw [bytes_eq_flatMap, hnil] at h
    simp at h
  · have hlast : (String.utf8EncodeChar c).getLast? = some 13 := by
      rw [bytes_eq_flatMap, hconcat, List.concat_eq_append, List.flatMap_append] at h
      have hne : String.utf8EncodeChar c ≠ [] := String.utf8EncodeChar_ne_nil
      have := congrArg List.getLast? h
      simpa [List.getLast?_append, List.getLast?_eq_some_getLast hne] using this
    have hcode : c.toNat = '\r'.toNat :=
      toNat_of_mem_utf8EncodeChar (n := 13) (by decide) (List.mem_of_getLast? hlast)
    have htext : text = String.ofList cs ++ "\r" := by
      apply String.toList_inj.1
      rw [hconcat, Char.toNat_inj.1 hcode]
      simp
    refine ⟨String.ofList cs, htext, ?_⟩
    rw [htext, bytes_append_return] at h
    exact (List.append_cancel_right h).symm

/-- With a carriage return behind them, bytes are the text that they were before with a carriage
return behind it. -/
theorem decode?_append_return (line : List UInt8) :
    decode? (line ++ [13]) = (decode? line).map (· ++ "\r") := by
  cases h : decode? line with
  | none =>
    rw [Option.map_none, decode?_eq_none_iff]
    intro text htext
    obtain ⟨before, -, hbefore⟩ := eq_append_return_of_bytes htext.symm
    exact decode?_eq_none_iff.1 h before hbefore
  | some text =>
    rw [Option.map_some, decode?_eq_some_iff, bytes_append_return, decode?_eq_some_iff.1 h]

theorem unwrapped?_append_return (text : String) :
    (⟨some (text ++ "\r"), true⟩ : InputLine).unwrapped? = some text := by
  simp [unwrapped?]

theorem unwrapped?_of_no_return (h : ∀ before, text ≠ before ++ "\r") :
    (⟨some text, true⟩ : InputLine).unwrapped? = some text := by
  rw [unwrapped?, Option.map_some]
  split
  · next cs _ hreverse =>
    exfalso
    refine h (String.ofList cs.reverse) (String.toList_inj.1 ?_)
    rw [← List.reverse_reverse text.toList, hreverse]
    simp
  · rfl

/-- A carriage return before a newline can be taken off the bytes. -/
theorem unwrapped?_of_ended (line : List UInt8) :
    (⟨decode? line, true⟩ : InputLine).unwrapped? = decode? (withoutReturn line) := by
  by_cases hreturn : line.getLast? = some 13
  · obtain ⟨before, rfl⟩ := List.getLast?_eq_some_iff.1 hreturn
    rw [withoutReturn, if_pos hreturn, List.dropLast_concat, decode?_append_return]
    cases decode? before with
    | none => rfl
    | some text => exact unwrapped?_append_return text
  · rw [withoutReturn, if_neg hreturn]
    cases h : decode? line with
    | none => rfl
    | some text =>
      refine unwrapped?_of_no_return ?_
      rintro before rfl
      rw [decode?_eq_some_iff.1 h, bytes_append_return] at hreturn
      exact hreturn List.getLast?_concat

/-- The texts of the lines are the lines that are cut out of the bytes, each decoded by itself. -/
theorem map_unwrapped?_ofBytes (input : List UInt8) :
    (ofBytes input).map unwrapped? = (cut input).map decode? := by
  have hlast : ∀ line, (⟨decode? line, false⟩ : InputLine).unwrapped? = decode? line := by
    intro line
    cases h : decode? line <;> simp [unwrapped?]
  simp only [ofBytes, cut, List.map_append, List.map_map, Function.comp_def, unwrapped?_of_ended,
    hlast]

/-- An input that is empty or ends in a newline leaves the input after it as it is. -/
theorem ofBytes_append {input : List UInt8} (h : input = [] ∨ input.getLast? = some 10)
    (more : List UInt8) : ofBytes (input ++ more) = ofBytes input ++ ofBytes more := by
  rcases h with rfl | hlast
  · rfl
  · obtain ⟨before, rfl⟩ := List.getLast?_eq_some_iff.1 hlast
    have hne := List.splitOn_ne_nil 10 more
    rw [List.append_assoc, List.singleton_append, ofBytes, ofBytes, ofBytes,
      List.splitOn_append_cons_self, List.splitOn_append_cons_self, List.splitOn_nil]
    simp [List.dropLast_append_of_ne_nil hne, List.getLast?_append,
      List.getLast?_eq_some_getLast hne]

end InputLine

end LineDebugger
