import LineDebugger.Json.Reader
import LineDebugger.Json.Writer
import LineDebugger.Proofs.Text.Numeral
import Mathlib.Tactic.SplitIfs

/-!
# Scalars are read as they were written

Writing and reading JSON share no code. A string is written character by character, each one as
itself or as an escape, and read by a function that looks for a quote, a backslash or a control
character. So the argument goes by characters: what is written for one of them is read as that
one, whatever was read before it and whatever follows.

A string ends with its quote, and a word with its last letter. A number has no end of its own: it
is read as far as it goes, so it is only read back if nothing follows that could belong to it.
After a value that stands alone or inside a list or an object comes nothing of that kind.

## Main definitions

* `Json.Delimited` — what may follow a written value

## Main results

* `Json.stringBody_writeChar` — what is written for a character is read as that character
* `Json.readHead_writeString`, `Json.readHead_writeBoolean`, `Json.readHead_toString` — scalars
-/

namespace LineDebugger.Json

open Numeral

variable {c : Char} {r : List Char} {care : Care}

/-- What may follow a written value: nothing, a comma, or a bracket that closes. -/
def Delimited (r : List Char) : Prop := ∀ c ∈ r.head?, c = ',' ∨ c = ']' ∨ c = '\x7d'

theorem delimited_nil : Delimited [] := by
  simp [Delimited]

theorem delimited_cons (h : c = ',' ∨ c = ']' ∨ c = '\x7d') : Delimited (c :: r) := by
  simpa [Delimited] using h

theorem skipBlanks_cons (h : isBlank c = false) : skipBlanks (c :: r) = c :: r :=
  List.dropWhile_cons_of_neg (by simp [h])

theorem token_cons (h : isBlank c = false) : token care (c :: r) = tokenFrom care c r := by
  rw [token, skipBlanks_cons h]

/-! ### Strings -/

theorem hexDigit?_digitChar {n : Nat} (h : n < 16) : hexDigit? (Nat.digitChar n) = some n := by
  decide +revert

theorem codeUnit_control (h : c.toNat < 0x20) (r : List Char) :
    codeUnit ('0' :: '0' :: Nat.digitChar (c.toNat / 16) :: Nat.digitChar (c.toNat % 16) :: r) =
      .ok (c.toNat, r) := by
  have hzero : hexDigit? '0' = some 0 := by decide
  have hvalue : hexValue? '0' '0' (Nat.digitChar (c.toNat / 16)) (Nat.digitChar (c.toNat % 16)) =
      some c.toNat := by
    simp only [hexValue?, hzero, hexDigit?_digitChar (show c.toNat / 16 < 16 by omega),
      hexDigit?_digitChar (show c.toNat % 16 < 16 by omega)]
    refine congrArg some ?_
    show ((0 * 16 + 0) * 16 + c.toNat / 16) * 16 + c.toNat % 16 = c.toNat
    omega
  rw [codeUnit, hvalue]

theorem escape_letter {letter : Char} (h : letterEscapes.lookup letter = some c) (r : List Char) :
    escape care (letter :: r) = .ok (c, r) := by
  simp only [escape, h]

/-- The number of a control character is no half of a surrogate pair. -/
theorem escape_control (h : c.toNat < 0x20) (r : List Char) :
    escape care ('u' :: '0' :: '0' :: Nat.digitChar (c.toNat / 16) ::
      Nat.digitChar (c.toNat % 16) :: r) = .ok (c, r) := by
  have hletter : letterEscapes.lookup 'u' = none := by decide
  have hlow : isLow c.toNat = false := by simp [isLow]; omega
  have hhigh : isHigh c.toNat = false := by simp [isHigh]; omega
  simp only [escape, hletter, beq_self_eq_true, if_true, unicodeEscape, codeUnit_control h]
  cases care <;> simp [hlow, hhigh]

/-- An escape is read as the character that it stands for. -/
theorem stringBody_escape {s : List Char} (h : escape care s = .ok (c, r)) (past : List Char) :
    stringBody care past ('\\' :: s) = stringBody care (c :: past) r := by
  have hquote : ('\\' == '\x22') = false := by decide
  rw [stringBody, hquote]
  simp only [Bool.false_eq_true, if_false, beq_self_eq_true, if_true]
  split
  · next h' => rw [h] at h'; cases h'
  · next h' => rw [h] at h'; cases h'; rfl

/-- What is written for a character is read as that character. -/
theorem stringBody_writeChar (past : List Char) (c : Char) (r : List Char) :
    stringBody care past (writeChar c ++ r) = stringBody care (c :: past) r := by
  have hletter : ∀ {letter}, letterEscapes.lookup letter = some c →
      stringBody care past ('\\' :: letter :: r) = stringBody care (c :: past) r :=
    fun h => stringBody_escape (escape_letter h r) past
  rw [writeChar]
  split_ifs with hquote hbackslash hb hf hn hr ht hcontrol
  · exact hletter (by rw [eq_of_beq hquote]; rfl)
  · exact hletter (by rw [eq_of_beq hbackslash]; rfl)
  · exact hletter (by rw [eq_of_beq hb]; rfl)
  · exact hletter (by rw [eq_of_beq hf]; rfl)
  · exact hletter (by rw [eq_of_beq hn]; rfl)
  · exact hletter (by rw [eq_of_beq hr]; rfl)
  · exact hletter (by rw [eq_of_beq ht]; rfl)
  · exact stringBody_escape (escape_control hcontrol r) past
  · rw [List.singleton_append, stringBody, if_neg hquote, if_neg hbackslash, if_neg hcontrol]

theorem stringBody_flatMap_writeChar (past text r : List Char) :
    stringBody care past (text.flatMap writeChar ++ '\x22' :: r) =
      .ok (String.ofList (past.reverse ++ text), r) := by
  induction text generalizing past with
  | nil =>
    rw [List.flatMap_nil, List.nil_append, stringBody]
    simp
  | cons c text ih =>
    rw [List.flatMap_cons, List.append_assoc, stringBody_writeChar, ih]
    simp

theorem toList_writeString (text : String) (r : List Char) :
    (writeString text).toList ++ r =
      '\x22' :: (text.toList.flatMap writeChar ++ '\x22' :: r) := by
  simp [writeString]

/-- Behind its opening quote, a written string is read as the string. -/
theorem stringBody_written (text : String) (r : List Char) :
    stringBody care [] (text.toList.flatMap writeChar ++ '\x22' :: r) = .ok (text, r) := by
  rw [stringBody_flatMap_writeChar]
  simp

theorem readHead_writeString (text : String) (r : List Char) :
    readHead ((writeString text).toList ++ r) = .ok (.string text, r) := by
  have htoken : token .strict ((writeString text).toList ++ r) = .ok (.string text, r) := by
    rw [toList_writeString, token_cons (by decide)]
    show mapValue Token.string (stringBody .strict [] _) = _
    rw [stringBody_written]
    rfl
  rw [readHead, htoken]
  rfl

theorem readHead_writeBoolean (b : Bool) (r : List Char) :
    readHead ((writeBoolean b).toList ++ r) = .ok (.boolean b, r) := by
  cases b <;> rfl

/-! ### Numbers -/

theorem Delimited.isDigit_eq_false (h : Delimited r) : ∀ c ∈ r.head?, c.isDigit = false := by
  intro c hc
  rcases h c hc with rfl | rfl | rfl <;> rfl

theorem someDigits_toDigits (cut : Stop TextError) (n : Nat) (h : Delimited r) :
    someDigits cut (Nat.toDigits 10 n ++ r) = .ok (Nat.toDigits 10 n, r) := by
  have hrest : r.takeWhile Char.isDigit = [] ∧ r.dropWhile Char.isDigit = r := by
    cases r with
    | nil => exact ⟨rfl, rfl⟩
    | cons c r => simp [h.isDigit_eq_false c rfl]
  have htake : (Nat.toDigits 10 n ++ r).takeWhile Char.isDigit = Nat.toDigits 10 n := by
    rw [List.takeWhile_append_of_pos fun _ => isDigit_of_mem_toDigits, hrest.1, List.append_nil]
  have hdrop : (Nat.toDigits 10 n ++ r).dropWhile Char.isDigit = r := by
    rw [List.dropWhile_append_of_pos fun _ => isDigit_of_mem_toDigits, hrest.2]
  obtain ⟨c, cs, hdigits, -⟩ := exists_cons_toDigits n
  have hc : c.isDigit := isDigit_of_mem_toDigits (n := n) (by simp [hdigits])
  rw [hdigits, List.cons_append] at htake hdrop ⊢
  simp only [someDigits, hc, if_true, htake, hdrop]

theorem wholeDigits_toDigits (cut : Stop TextError) (n : Nat) (h : Delimited r) :
    wholeDigits cut (Nat.toDigits 10 n ++ r) = .ok (Nat.toDigits 10 n, r) := by
  have hsome := someDigits_toDigits cut n h
  rw [wholeDigits.eq_def]
  split
  · -- behind a zero that comes first stands what follows the number
    next d rest heq =>
    obtain ⟨c, cs, hdigits, hzero⟩ := exists_cons_toDigits n
    rw [hdigits, List.cons_append] at heq
    obtain ⟨rfl, htail⟩ := List.cons.inj heq
    obtain rfl := hzero rfl
    rw [Nat.toDigits_zero] at hdigits ⊢
    obtain rfl := (List.cons.inj hdigits).2
    rw [List.nil_append] at htail
    rw [htail] at h
    rw [h.isDigit_eq_false d rfl, htail]
    rfl
  · exact hsome

theorem numberText_toDigits (cut : Stop TextError) (n : Nat) (h : Delimited r) :
    numberText cut (Nat.toDigits 10 n ++ r) = .ok (⟨Nat.toDigits 10 n, [], none⟩, r) := by
  have hfraction : fractionDigits cut r = .ok ([], r) := by
    cases r with
    | nil => rfl
    | cons c r => rcases h c rfl with rfl | rfl | rfl <;> rfl
  have hexponent : exponentDigits cut r = .ok (none, r) := by
    cases r with
    | nil => rfl
    | cons c r => rcases h c rfl with rfl | rfl | rfl <;> rfl
  rw [numberText, wholeDigits_toDigits cut n h]
  simp only [hfraction, hexponent]

theorem beq_eq_false_of_isDigit {d : Char} (hc : c.isDigit) (hd : d.isDigit = false) :
    (c == d) = false := by
  rw [beq_eq_false_iff_ne]
  rintro rfl
  rw [hc] at hd
  cases hd

theorem isBlank_of_isDigit (hc : c.isDigit) : isBlank c = false := by
  rw [isBlank, beq_eq_false_of_isDigit hc rfl, beq_eq_false_of_isDigit hc rfl,
    beq_eq_false_of_isDigit hc rfl, beq_eq_false_of_isDigit hc rfl]
  rfl

/-- A digit starts a number. -/
theorem token_of_isDigit (hc : c.isDigit) :
    token care (c :: r) = mapValue (.number false) (numberText (cutNumber care) (c :: r)) := by
  rw [token_cons (isBlank_of_isDigit hc), tokenFrom, beq_eq_false_of_isDigit (d := 'n') hc rfl,
    beq_eq_false_of_isDigit (d := 't') hc rfl, beq_eq_false_of_isDigit (d := 'f') hc rfl,
    beq_eq_false_of_isDigit (d := '-') hc rfl, hc]
  rfl

theorem value?_toDigits {n : Nat} (hn : n < UInt64.size) :
    NumberText.value? ⟨Nat.toDigits 10 n, [], none⟩ false =
      some (.natural (UInt64.ofNat n)) := by
  have hdigits : digitsValue (Nat.toDigits 10 n) = n := Nat.ofDigitChars_ten_toDigits
  simp [NumberText.value?, NumberText.integer?, NumberText.isInteger, hdigits, hn]

/-- A number of 64 bits is read as it was written, if nothing follows that could belong to it. -/
theorem readHead_toString {n : Nat} (hn : n < UInt64.size) (h : Delimited r) :
    readHead ((toString n).toList ++ r) = .ok (.number (.natural (UInt64.ofNat n)), r) := by
  obtain ⟨c, cs, hdigits, -⟩ := exists_cons_toDigits n
  have hc : c.isDigit := isDigit_of_mem_toDigits (n := n) (by simp [hdigits])
  have htoken : token .strict (Nat.toDigits 10 n ++ r) =
      .ok (.number false ⟨Nat.toDigits 10 n, [], none⟩, r) := by
    have hnumber := numberText_toDigits (cutNumber .strict) n h
    rw [hdigits, List.cons_append] at hnumber ⊢
    rw [token_of_isDigit hc, hnumber]
    rfl
  rw [readHead, toList_toString, htoken]
  simp only [Head.ofToken, value?_toDigits hn]

end LineDebugger.Json
