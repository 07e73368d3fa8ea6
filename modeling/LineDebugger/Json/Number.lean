import LineDebugger.Json.TextError
import LineDebugger.Text.Numeral

/-!
# Numbers of JSON

A number is first read as it is written: digits without needless zeros at the front, perhaps a
point with digits, perhaps an exponent. Only then is it given a value. Without a point and an
exponent it is an integer if 64 bits can hold it; minus zero is none. Everything else is a double.

The double is computed as follows. Digits enter a significand as long as that fits 64 bits; digits
before the point that came too late still count for the exponent, and digits after the point that
came too late count for nothing. The significand is then multiplied or divided by a power of ten.
The result need not be the nearest double, and it is this one that messages show.

## Main definitions

* `Json.NumberText`, `Json.numberText` — a number as it is written, and reading it
* `Json.Number`, `Json.NumberText.value?` — the value of a number
-/

namespace LineDebugger.Json

/-! ### The text of a number -/

/-- A number as it is written, without its sign. -/
structure NumberText where
  /-- The digits before the point. -/
  whole : List Char
  /-- The digits after the point; none if there is no point. -/
  fraction : List Char
  /-- The exponent: is it negative, and what are its digits? -/
  exponent? : Option (Bool × List Char)
deriving DecidableEq

/-- At least one digit. `cut` is why reading stops if the text ends instead. -/
def someDigits (cut : Stop TextError) (s : List Char) :
    Except (Stop TextError) (List Char × List Char) :=
  match s with
  | [] => .error cut
  | c :: _ =>
    if c.isDigit then .ok (s.takeWhile Char.isDigit, s.dropWhile Char.isDigit)
    else .error (.fault .badNumber s 1)

/-- The digits before the point: a single zero, or digits that start with another one. -/
def wholeDigits (cut : Stop TextError) (s : List Char) :
    Except (Stop TextError) (List Char × List Char) :=
  match s with
  | '0' :: c :: r =>
    if c.isDigit then .error (.fault .badNumber (c :: r) 1) else .ok (['0'], c :: r)
  | _ => someDigits cut s

/-- The point and the digits after it, if there is a point. -/
def fractionDigits (cut : Stop TextError) :
    List Char → Except (Stop TextError) (List Char × List Char)
  | '.' :: r => someDigits cut r
  | s => .ok ([], s)

/-- A sign, if there is one: is it a minus? -/
def exponentSign : List Char → Bool × List Char
  | '+' :: r => (false, r)
  | '-' :: r => (true, r)
  | s => (false, s)

/-- The exponent, if there is one. -/
def exponentDigits (cut : Stop TextError) (s : List Char) :
    Except (Stop TextError) (Option (Bool × List Char) × List Char) :=
  match s with
  | c :: r =>
    if c == 'e' || c == 'E' then
      match someDigits cut (exponentSign r).2 with
      | .error e => .error e
      | .ok (digits, r') => .ok (some ((exponentSign r).1, digits), r')
    else .ok (none, s)
  | [] => .ok (none, s)

/-- A number without its sign. -/
def numberText (cut : Stop TextError) (s : List Char) :
    Except (Stop TextError) (NumberText × List Char) :=
  match wholeDigits cut s with
  | .error e => .error e
  | .ok (whole, s) =>
    match fractionDigits cut s with
    | .error e => .error e
    | .ok (fraction, s) =>
      match exponentDigits cut s with
      | .error e => .error e
      | .ok (exponent?, s) => .ok (⟨whole, fraction, exponent?⟩, s)

theorem length_someDigits_lt {cut : Stop TextError} {s ds r : List Char}
    (h : someDigits cut s = .ok (ds, r)) : r.length < s.length := by
  rw [someDigits.eq_def] at h
  split at h
  · cases h
  · next c t =>
    split at h
    · next hc =>
      cases h
      rw [List.dropWhile_cons_of_pos hc]
      exact Nat.lt_succ_of_le (length_dropWhile_le _ _)
    · cases h

theorem length_wholeDigits_lt {cut : Stop TextError} {s ds r : List Char}
    (h : wholeDigits cut s = .ok (ds, r)) : r.length < s.length := by
  rw [wholeDigits.eq_def] at h
  split at h
  · split at h
    · cases h
    · cases h; simp
  · exact length_someDigits_lt h

theorem length_fractionDigits_le {cut : Stop TextError} {s ds r : List Char}
    (h : fractionDigits cut s = .ok (ds, r)) : r.length ≤ s.length := by
  rw [fractionDigits.eq_def] at h
  split at h
  · have := length_someDigits_lt h; simp only [List.length_cons]; omega
  · cases h; exact Nat.le_refl _

theorem length_exponentSign_le (s : List Char) : (exponentSign s).2.length ≤ s.length := by
  rw [exponentSign.eq_def]
  split <;> simp

theorem length_exponentDigits_le {cut : Stop TextError} {s r : List Char}
    {x : Option (Bool × List Char)} (h : exponentDigits cut s = .ok (x, r)) :
    r.length ≤ s.length := by
  rw [exponentDigits.eq_def] at h
  split at h
  · next c t =>
    split at h
    · split at h
      · cases h
      · next hd =>
        cases h
        have := length_someDigits_lt hd
        have := length_exponentSign_le t
        simp only [List.length_cons]
        omega
    · cases h; exact Nat.le_refl _
  · cases h; exact Nat.le_refl _

theorem length_numberText_lt {cut : Stop TextError} {s r : List Char} {n : NumberText}
    (h : numberText cut s = .ok (n, r)) : r.length < s.length := by
  rw [numberText] at h
  split at h
  · cases h
  · next hw =>
    split at h
    · cases h
    · next hf =>
      split at h
      · cases h
      · next he =>
        cases h
        have := length_wholeDigits_lt hw
        have := length_fractionDigits_le hf
        have := length_exponentDigits_le he
        omega

/-! ### The value of a number -/

/-- The value of a number. -/
inductive Number
  /-- An integer that is not negative. -/
  | natural (n : UInt64)
  /-- An integer below zero. -/
  | negative (n : Int64)
  /-- Any other number. -/
  | float (x : Float)

/-- The value of a row of digits. -/
def digitsValue (digits : List Char) : Nat := Nat.ofDigitChars 10 digits 0

/-- The significand after taking in digits while it fits 64 bits, and how many were too late. -/
def takeDigits (significand : Nat) : List Char → Nat × Nat
  | [] => (significand, 0)
  | c :: cs =>
    let next := 10 * significand + (c.toNat - '0'.toNat)
    if next < UInt64.size then takeDigits next cs else (significand, cs.length + 1)

/-- The double `10 ^ n`, for an `n` up to 308. -/
def powerOfTen (n : Nat) : Float := Float.ofScientific 1 false n

/-- A double times a power of ten, unless that is too large. -/
def scale? (x : Float) (exponent : Int) : Option Float :=
  if exponent.natAbs ≤ 308 then
    if 0 ≤ exponent then
      let y := x * powerOfTen exponent.toNat
      if y.isInf then none else some y
    else some (x / powerOfTen (-exponent).toNat)
  else if x == 0 then some x
  else if 0 ≤ exponent then none
  else scale? (x / powerOfTen 308) (exponent + 308)
termination_by (-exponent).toNat

/-- The greatest exponent that is taken at its value. -/
def greatestExponent : Nat := 2147483647

/-- How many digits of an exponent nobody looks at because it is beyond the greatest one before
them; `exponent` is the value of the digits read so far. -/
def unseenDigits (exponent : Nat) : List Char → Nat
  | [] => 0
  | c :: cs =>
    let next := 10 * exponent + (c.toNat - '0'.toNat)
    if next ≤ greatestExponent then unseenDigits next cs else cs.length

/-- How many digits of a number that is too large have not been looked at when that shows. -/
def NumberText.unseen (t : NumberText) : Nat := t.exponent?.elim 0 fun x => unseenDigits 0 x.2

/-- The magnitude of a number as a double, unless it is too large. An exponent beyond the greatest
one makes it too large, or zero. -/
def NumberText.magnitude? (t : NumberText) : Option Float :=
  let (whole, late) := takeDigits 0 t.whole
  let (significand, ignored) := takeDigits whole t.fraction
  let shift : Int := late - (t.fraction.length - ignored)
  let start := (UInt64.ofNat significand).toFloat
  match t.exponent? with
  | none => scale? start shift
  | some (negative, digits) =>
    let exponent := digitsValue digits
    if exponent ≤ greatestExponent then
      scale? start (if negative then shift - exponent else shift + exponent)
    else if significand != 0 && !negative then none
    else some 0

/-- Is the number written without point and exponent? -/
def NumberText.isInteger (t : NumberText) : Bool := t.fraction.isEmpty && t.exponent?.isNone

/-- The integer that a number is, if it is written as one and 64 bits can hold it. -/
def NumberText.integer? (t : NumberText) (negative : Bool) : Option Number :=
  let n := digitsValue t.whole
  if !t.isInteger then none
  else if negative then
    if n = 0 then none else (Numeral.ofInt? (-(n : Int))).map .negative
  else if n < UInt64.size then some (.natural (UInt64.ofNat n))
  else none

/-- The value of a number, unless it is too large for a double. -/
def NumberText.value? (t : NumberText) (negative : Bool) : Option Number :=
  match t.integer? negative with
  | some n => some n
  | none => t.magnitude?.map fun x => .float (if negative then -x else x)

end LineDebugger.Json
