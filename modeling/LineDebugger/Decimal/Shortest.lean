/-!
# Shortest decimals

A finite double stands for every real number that rounds to it. Among the decimals in that
interval, its shortest one has the fewest digits; if two have that many, it is the nearer one, and
of two equally near ones the one with the even last digit.

All of this is exact. The magnitude of the double is `mantissa * 2 ^ exponent`, and everything is
counted in quarters of `2 ^ exponent`, so the ends of the interval are whole numbers too. For one
digit, two digits and so on, the two neighbours of the magnitude on the decimal grid are tried; if
a grid has any point inside the interval, one of these two is such a point.

## Main definitions

* `Decimal` — a decimal as digits and exponent
* `Decimal.Binary` — a magnitude as mantissa and exponent
* `Decimal.Shortest.candidate?` — the point of a decimal grid inside the interval
* `Decimal.Shortest.decimal` — the shortest decimal
-/

namespace LineDebugger

/-- A decimal `digits * 10 ^ exponent`. -/
structure Decimal where
  digits : Nat
  exponent : Int

namespace Decimal

/-- A positive magnitude `mantissa * 2 ^ exponent`. -/
structure Binary where
  mantissa : Nat
  exponent : Int
  /-- Is the next smaller double only half as far away as the next greater one? -/
  closeBelow : Bool

/-- The magnitude of a finite double that is not zero. -/
def Binary.ofFloat (x : Float) : Binary :=
  let biased := ((x.toBits >>> 52) &&& 0x7FF).toNat
  let fraction := (x.toBits &&& 0xFFFFFFFFFFFFF).toNat
  if biased = 0 then ⟨fraction, -1074, false⟩
  else ⟨fraction + 0x10000000000000, Int.ofNat biased - 1075, fraction == 0 && biased != 1⟩

namespace Shortest

/-- Numerator and denominator of so many quarters of `2 ^ exponent`, in units of `10 ^ grid`. -/
def scaled (b : Binary) (grid : Int) (quarters : Nat) : Nat × Nat :=
  let e := b.exponent - 2
  (quarters * Nat.pow 2 e.toNat * Nat.pow 10 (-grid).toNat,
    Nat.pow 2 (-e).toNat * Nat.pow 10 grid.toNat)

/-- Does `point * 10 ^ grid` round to the magnitude? The ends of the interval do if the mantissa
is even. -/
def rounds (b : Binary) (grid : Int) (point : Nat) : Bool :=
  let (low, den) := scaled b grid (4 * b.mantissa - if b.closeBelow then 1 else 2)
  let (high, _) := scaled b grid (4 * b.mantissa + 2)
  let value := point * den
  if b.mantissa % 2 == 0 then low ≤ value && value ≤ high else low < value && value < high

/-- The point of the grid `10 ^ grid` that rounds to the magnitude, if there is one. -/
def candidate? (b : Binary) (grid : Int) : Option Nat :=
  let (num, den) := scaled b grid (4 * b.mantissa)
  let below := num / den
  let above := below + 1
  match rounds b grid below, rounds b grid above with
  | false, false => none
  | true, false => some below
  | false, true => some above
  | true, true =>
    let down := num - below * den
    let up := above * den - num
    if down < up then some below
    else if up < down then some above
    else if below % 2 == 0 then some below else some above

/-- The least `places` from `start` on with the magnitude below `10 ^ places`. -/
def placesFrom (b : Binary) : Nat → Int → Int
  | 0, start => start
  | fuel + 1, start =>
    let (num, den) := scaled b start (4 * b.mantissa)
    if num < den then start else placesFrom b fuel (start + 1)

/-- How many places the magnitude has before the point, or minus the zeros after it. -/
def places (b : Binary) : Int := placesFrom b 640 (-324)

/-- Takes the zeros off the end of the digits. -/
def trim (digits : Nat) (exponent : Int) : Decimal :=
  if digits ≠ 0 ∧ digits % 10 = 0 then trim (digits / 10) (exponent + 1) else ⟨digits, exponent⟩
termination_by digits
decreasing_by omega

/-- The first grid that has a candidate, from `count` digits on. -/
def search (b : Binary) (places : Int) : Nat → Nat → Decimal
  | 0, _ => ⟨0, 0⟩
  | fuel + 1, count =>
    match candidate? b (places - count) with
    | some point => trim point (places - count)
    | none => search b places fuel (count + 1)

/-- The shortest decimal of a magnitude. -/
def decimal (b : Binary) : Decimal := search b (places b) 17 1

end Shortest

end Decimal

end LineDebugger
