/-!
# Decimal numerals

Numerals are read at two widths, both of 64 bits: the operand of a statement is a signed integer
and a breakpoint is a line number without a sign. Each takes at least one decimal digit, allows
any number of leading zeros, and is refused as a whole when the number it denotes does not fit.
Only the digits `0` to `9` count, so a numeral in another script is no numeral here.

## Main definitions

* `Numeral.digits?` — the number that a row of digits denotes
* `Numeral.natural?` — a number below `2 ^ 64`, with an optional `+`
* `Numeral.ofInt?` — an integer as a signed 64-bit one, if it fits
* `Numeral.integer?` — a signed 64-bit integer, with an optional sign
-/

namespace LineDebugger.Numeral

/-- The number that a row of at least one decimal digit denotes. -/
def digits? (cs : List Char) : Option Nat :=
  if !cs.isEmpty && cs.all Char.isDigit then some (Nat.ofDigitChars 10 cs 0) else none

/-- A number below `2 ^ 64`, written in decimal with an optional `+` before it. -/
def natural? (text : String) : Option Nat :=
  let digits := match text.toList with
    | '+' :: cs => cs
    | cs => cs
  (digits? digits).filter (· < UInt64.size)

/-- The signed 64-bit integer equal to `n`, if there is one. -/
def ofInt? (n : Int) : Option Int64 :=
  if Int64.minValue.toInt ≤ n ∧ n ≤ Int64.maxValue.toInt then some (Int64.ofInt n) else none

/-- A result of `ofInt?` denotes the number that went in: nothing wraps. -/
theorem toInt_of_ofInt?_eq_some {n : Int} {v : Int64} (h : ofInt? n = some v) : v.toInt = n := by
  simp only [ofInt?, Option.ite_none_right_eq_some, Option.some.injEq] at h
  obtain ⟨⟨hlo, hhi⟩, rfl⟩ := h
  exact Int64.toInt_ofInt_of_le hlo (by have : Int64.maxValue.toInt = 2 ^ 63 - 1 := rfl; omega)

/-- A signed 64-bit integer, written in decimal with at most one sign before it. -/
def integer? (text : String) : Option Int64 :=
  match text.toList with
  | '-' :: cs => (digits? cs).bind fun n => ofInt? (-n)
  | '+' :: cs => (digits? cs).bind fun n => ofInt? n
  | cs => (digits? cs).bind fun n => ofInt? n

end LineDebugger.Numeral
