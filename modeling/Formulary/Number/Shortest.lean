/-
  The shortest decimal that reads back as a given double.

  A double stands for every real that rounds to it: the reals between the
  midpoints to its two neighbours, the midpoints included if its mantissa is
  even.  `Binary64.shortest` tests, for one digit, two digits and so on, the
  two decimals of that many digits on either side of the value; the first
  count with one inside wins, and of two the nearer (the even one of a tie).
-/
import Formulary.Number.Binary64

namespace Formulary

/-- The decimal `digits · 10^exponent`. -/
structure Decimal where
  digits : Nat
  exponent : Int
deriving DecidableEq, Repr

namespace Decimal

/-- The same decimal without trailing zeros; `fuel` bounds how many are dropped. -/
def trim : Nat → Decimal → Decimal
  | 0, d => d
  | fuel + 1, d =>
    if d.digits ≠ 0 ∧ d.digits % 10 = 0 then trim fuel ⟨d.digits / 10, d.exponent + 1⟩ else d

end Decimal

namespace Binary64

/-- A positive quotient of naturals with the bounds of the interval that rounds
    to it, all three over one denominator. -/
structure Interval where
  low : Nat
  value : Nat
  high : Nat
  den : Nat
  closed : Bool

/-- The interval of a nonzero magnitude, in quarters of its mantissa's step:
    below a power of two the neighbour is half as far away. -/
def interval (exponent : Fin 2047) (fraction : Fin hiddenBit) : Interval :=
  let m := mantissa exponent fraction
  let below := if fraction.val = 0 ∧ 1 < exponent.val then 1 else 2
  let step := Nat.pow 2 (scale exponent)
  { low := (4 * m - below) * step
    value := 4 * m * step
    high := (4 * m + 2) * step
    den := 4 * unitsPerOne
    closed := m % 2 = 0 }

/-- Whether `num / den` lies in the interval. -/
def Interval.mem (i : Interval) (num den : Nat) : Bool :=
  let x := num * i.den
  if i.closed then i.low * den ≤ x && x ≤ i.high * den
  else i.low * den < x && x < i.high * den

/-- The exponent `e` with `10^e ≤ num / den < 10^(e+1)`, for a positive quotient. -/
def decimalExponent (num den : Nat) : Int :=
  let guess : Int := ((num.log2 : Int) - (den.log2 : Int)) * 30103 / 100000
  let atLeast (e : Int) : Bool :=
    if 0 ≤ e then den * Nat.pow 10 e.toNat ≤ num else den ≤ num * Nat.pow 10 (-e).toNat
  if atLeast (guess + 1) then guess + 1
  else if atLeast guess then guess
  else guess - 1

/-- The best decimal of the interval among the multiples of `10^exponent`. -/
def Interval.onGrid (i : Interval) (exponent : Int) : Option Decimal :=
  -- a quotient over the grid's step: `value / den / 10^exponent`
  let up := if 0 ≤ exponent then 1 else Nat.pow 10 (-exponent).toNat
  let down := if 0 ≤ exponent then Nat.pow 10 exponent.toNat else 1
  let num := i.value * up
  let den := i.den * down
  let d := num / den
  let r := num % den
  let inside (n : Nat) : Bool := i.mem (n * down) up
  let lower := inside d && d ≠ 0
  let upper := inside (d + 1)
  if lower && upper then
    some ⟨if 2 * r < den then d else if den < 2 * r then d + 1 else if d % 2 = 0 then d else d + 1,
      exponent⟩
  else if lower then some ⟨d, exponent⟩
  else if upper then some ⟨d + 1, exponent⟩
  else none

/-- Tries `count` grids from the one of step `10^exponent` downwards. -/
def Interval.search (i : Interval) : Nat → Int → Decimal
  | 0, exponent => ⟨i.value * Nat.pow 10 (-exponent).toNat / i.den, exponent⟩
  | count + 1, exponent => (i.onGrid exponent).getD (i.search count (exponent - 1))

/-- The shortest decimal that rounds to a magnitude, and the nearest of those;
    zero has one digit. -/
def shortest (exponent : Fin 2047) (fraction : Fin hiddenBit) : Decimal :=
  if magnitude exponent fraction = 0 then ⟨0, 0⟩
  else
    let i := interval exponent fraction
    (i.search 17 (decimalExponent i.value i.den)).trim 20

end Binary64
end Formulary
