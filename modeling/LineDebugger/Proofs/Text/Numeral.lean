import LineDebugger.Text.Numeral
import Mathlib.Algebra.Group.Nat.Defs
import Mathlib.Data.List.Induction

/-!
# Decimal notation

A number is written as the library writes it, and that this is the usual notation has to be said
somewhere: nothing but digits, so no sign and no blank; no zero in front unless it is the only
digit; and the digits denote the number. All of it comes from one place. A number below ten is
written as its digit, and any other one as what is written for its tenth, and one more digit.

Reading goes along a row of digits from its front and adds up as it goes. What a row denotes is said
here from its end, digit by digit, as it is written. Nothing in that knows of a width, so a row may
be as long as it likes; only the number that it denotes in the end has to fit.

## Main definitions

* `Numeral.IsDecimal` — the text is the decimal notation of the number
* `Numeral.Digits`, `Numeral.Denotes` — what a row of digits, and what a numeral, denotes
* `Numeral.DenotesNatural` — the same for a numeral that has no minus sign

## Main results

* `Numeral.exists_cons_toDigits` — the digits begin with a zero only for zero
* `Numeral.isDecimal_toString` — a number is written in decimal notation
* `Numeral.ofInt?_eq_none_iff` — which numbers do not fit
* `Numeral.integer?_eq_some_iff` — an operand is a numeral for a number that fits
* `Numeral.natural?_eq_some_iff` — and so is a line number
* `Numeral.denotes_toString` — what is written for an integer denotes it
-/

namespace LineDebugger.Numeral

/-- A decimal numeral starts with a zero only if it is that of zero. -/
theorem exists_cons_toDigits (n : Nat) :
    ∃ c cs, Nat.toDigits 10 n = c :: cs ∧ (c = '0' → n = 0) := by
  induction n using Nat.strongRecOn with
  | ind n ih =>
    rcases Nat.lt_or_ge n 10 with hlt | hge
    · have hdigit : ∀ n < 10, Nat.digitChar n = '0' → n = 0 := by decide
      exact ⟨_, [], Nat.toDigits_of_lt_base hlt, hdigit n hlt⟩
    · obtain ⟨c, cs, hdigits, hzero⟩ := ih (n / 10) (by omega)
      refine ⟨c, _, by rw [Nat.toDigits_of_base_le (by decide) hge, hdigits]; rfl, ?_⟩
      intro hc
      have := hzero hc
      omega

theorem isDigit_of_mem_toDigits {n : Nat} {c : Char} (h : c ∈ Nat.toDigits 10 n) : c.isDigit :=
  Nat.isDigit_of_mem_toDigits (by decide) (by decide) h

theorem toList_toString (n : Nat) : (toString n).toList = Nat.toDigits 10 n := by
  show n.repr.toList = _
  rw [Nat.repr_eq_ofList_toDigits, String.toList_ofList]

/-- An integer that is not negative is written without a sign. -/
theorem toString_of_nonneg {z : Int} (h : 0 ≤ z) : toString z = toString z.toNat := by
  obtain ⟨n, rfl⟩ := Int.eq_ofNat_of_zero_le h
  rfl

/-- The text is the decimal notation of the number. -/
structure IsDecimal (text : String) (n : Nat) : Prop where
  /-- There are digits and nothing else, and they denote the number. -/
  digits : digits? text.toList = some n
  /-- Only zero is written with a zero in front. -/
  leading : text.toList.head? = some '0' → n = 0

/-- A number is written in decimal notation. -/
theorem isDecimal_toString (n : Nat) : IsDecimal (toString n) n := by
  obtain ⟨c, cs, hdigits, hzero⟩ := exists_cons_toDigits n
  constructor
  · have hall : (Nat.toDigits 10 n).all Char.isDigit :=
      List.all_eq_true.2 fun _ => isDigit_of_mem_toDigits
    have hsome : (Nat.toDigits 10 n).isEmpty = false := by rw [hdigits]; rfl
    rw [toList_toString, digits?, hall, hsome, Nat.ofDigitChars_ten_toDigits]
    rfl
  · rw [toList_toString, hdigits]
    intro hhead
    exact hzero (Option.some.inj hhead)

/-! ### Width -/

theorem ofInt?_eq_some_iff {n : Int} {v : Int64} : ofInt? n = some v ↔ v.toInt = n := by
  constructor
  · exact toInt_of_ofInt?_eq_some
  · rintro rfl
    rw [ofInt?, if_pos ⟨v.le_toInt, v.toInt_le⟩, Int64.ofInt_toInt]

/-- A number is refused if it lies outside the range of 64 bits, at either end. -/
theorem ofInt?_eq_none_iff {n : Int} :
    ofInt? n = none ↔ n < Int64.minValue.toInt ∨ Int64.maxValue.toInt < n := by
  rw [ofInt?]
  split
  · next hfits =>
    constructor
    · intro h
      cases h
    · omega
  · next hout =>
    constructor
    · omega
    · exact fun _ => rfl

/-! ### Reading -/

/-- A row of decimal digits, and the number that it denotes. -/
inductive Digits : List Char → Nat → Prop
  /-- A digit denotes its own value. -/
  | digit {c : Char} (hc : c.isDigit) : Digits [c] (c.toNat - '0'.toNat)
  /-- One more digit behind a row counts once, and the row before it ten times. -/
  | append {cs : List Char} {n : Nat} {c : Char} (hcs : Digits cs n) (hc : c.isDigit) :
      Digits (cs ++ [c]) (10 * n + (c.toNat - '0'.toNat))

/-- A numeral, and the integer that it denotes: a row of digits, with at most one sign before it. -/
inductive Denotes : List Char → Int → Prop
  | bare {cs : List Char} {n : Nat} (h : Digits cs n) : Denotes cs n
  | plus {cs : List Char} {n : Nat} (h : Digits cs n) : Denotes ('+' :: cs) n
  | minus {cs : List Char} {n : Nat} (h : Digits cs n) : Denotes ('-' :: cs) (-n)

/-- A numeral without a minus sign, and the number that it denotes. -/
inductive DenotesNatural : List Char → Nat → Prop
  | bare {cs : List Char} {n : Nat} (h : Digits cs n) : DenotesNatural cs n
  | plus {cs : List Char} {n : Nat} (h : Digits cs n) : DenotesNatural ('+' :: cs) n

variable {cs : List Char} {n : Nat}

theorem digits?_eq_some_iff_ofDigitChars :
    digits? cs = some n ↔ (cs ≠ [] ∧ ∀ c ∈ cs, c.isDigit) ∧ Nat.ofDigitChars 10 cs 0 = n := by
  simp [digits?]

/-- What is read as a row of digits is one, and is read as the number that it denotes. -/
theorem digits?_eq_some_iff : digits? cs = some n ↔ Digits cs n := by
  rw [digits?_eq_some_iff_ofDigitChars]
  constructor
  · rintro ⟨⟨hne, hall⟩, rfl⟩
    induction cs using List.reverseRecOn with
    | nil => exact absurd rfl hne
    | append_singleton cs c ih =>
      have hc : c.isDigit := hall c (by simp)
      rcases List.eq_nil_or_concat cs with rfl | ⟨before, last, hcs⟩
      · have hone : Nat.ofDigitChars 10 ([] ++ [c]) 0 = c.toNat - '0'.toNat := by
          simp [Nat.ofDigitChars]
        rw [hone]
        exact .digit hc
      · rw [Nat.ofDigitChars_append]
        exact .append (ih (by simp [hcs]) fun d hd => hall d (by simp [hd])) hc
  · intro h
    induction h with
    | digit hc => simpa [Nat.ofDigitChars] using hc
    | append hcs hc ih =>
      obtain ⟨⟨-, hall⟩, rfl⟩ := ih
      refine ⟨⟨by simp, ?_⟩, Nat.ofDigitChars_append 0⟩
      intro d hd
      rcases List.mem_append.1 hd with hold | hnew
      · exact hall d hold
      · rwa [List.mem_singleton.1 hnew]

/-- A row of digits has at least one, and nothing else in it. -/
theorem Digits.ne_nil_and_isDigit (h : Digits cs n) : cs ≠ [] ∧ ∀ c ∈ cs, c.isDigit :=
  (digits?_eq_some_iff_ofDigitChars.1 (digits?_eq_some_iff.2 h)).1

theorem Digits.exists_cons (h : Digits cs n) : ∃ c more, cs = c :: more ∧ c.isDigit := by
  obtain ⟨hne, hall⟩ := h.ne_nil_and_isDigit
  obtain ⟨c, more, rfl⟩ := List.exists_cons_of_ne_nil hne
  exact ⟨c, more, rfl, hall c (by simp)⟩

/-- A numeral has at least one character, and nothing but digits and signs in it. -/
theorem Denotes.ne_nil_and_isDigit {z : Int} (h : Denotes cs z) :
    cs ≠ [] ∧ ∀ c ∈ cs, c.isDigit ∨ c = '+' ∨ c = '-' := by
  cases h with
  | bare h =>
    obtain ⟨hne, hall⟩ := h.ne_nil_and_isDigit
    exact ⟨hne, fun c hc => .inl (hall c hc)⟩
  | plus h =>
    refine ⟨List.cons_ne_nil _ _, List.forall_mem_cons.2 ⟨by decide, fun c hc => ?_⟩⟩
    exact .inl (h.ne_nil_and_isDigit.2 c hc)
  | minus h =>
    refine ⟨List.cons_ne_nil _ _, List.forall_mem_cons.2 ⟨by decide, fun c hc => ?_⟩⟩
    exact .inl (h.ne_nil_and_isDigit.2 c hc)

/-- An operand is read exactly if it is a numeral for a number of 64 bits, and is read as this
number. -/
theorem integer?_eq_some_iff {text : String} {v : Int64} :
    integer? text = some v ↔ Denotes text.toList v.toInt := by
  rw [integer?]
  constructor
  · intro h
    split at h
    all_goals
      obtain ⟨n, hdigits, hfits⟩ := Option.bind_eq_some_iff.1 h
      rw [ofInt?_eq_some_iff.1 hfits]
      have hrow := digits?_eq_some_iff.1 hdigits
    · next htext => exact htext ▸ .minus hrow
    · next htext => exact htext ▸ .plus hrow
    · exact .bare hrow
  · intro h
    generalize htext : text.toList = cs at h
    generalize hnumber : v.toInt = z at h
    have hfits : ofInt? z = some v := ofInt?_eq_some_iff.2 hnumber
    cases h with
    | plus h => simp [digits?_eq_some_iff.2 h, hfits]
    | minus h => simp [digits?_eq_some_iff.2 h, hfits]
    | bare h =>
      obtain ⟨c, more, rfl, hc⟩ := h.exists_cons
      split
      · next heq =>
        rw [(List.cons.inj heq).1] at hc
        cases hc
      · next heq =>
        rw [(List.cons.inj heq).1] at hc
        cases hc
      · rw [digits?_eq_some_iff.2 h, Option.bind_some, hfits]

/-- A line number is read exactly if it is a numeral for a number below `2 ^ 64`, and is read as
this number. -/
theorem natural?_eq_some_iff {text : String} :
    natural? text = some n ↔ DenotesNatural text.toList n ∧ n < 2 ^ 64 := by
  have hsize : UInt64.size = 2 ^ 64 := rfl
  rw [natural?, Option.filter_eq_some_iff, decide_eq_true_iff, hsize, digits?_eq_some_iff]
  refine and_congr_left fun _ => ?_
  generalize text.toList = cs
  constructor
  · intro hrow
    split at hrow
    · exact .plus hrow
    · exact .bare hrow
  · intro h
    cases h with
    | plus hrow => exact hrow
    | bare hrow =>
      split
      · -- a row of digits does not begin with a sign
        obtain ⟨c, more, heq, hc⟩ := hrow.exists_cons
        rw [← (List.cons.inj heq).1] at hc
        cases hc
      · exact hrow

/-- What is written for an integer denotes it. -/
theorem denotes_toString (z : Int) : Denotes (toString z).toList z := by
  cases z with
  | ofNat n => exact .bare (digits?_eq_some_iff.1 (isDecimal_toString n).digits)
  | negSucc n =>
    have hrow := digits?_eq_some_iff.1 (isDecimal_toString (n + 1)).digits
    show Denotes ("-" ++ toString (n + 1)).toList _
    rw [String.toList_append]
    exact .minus hrow

end LineDebugger.Numeral
