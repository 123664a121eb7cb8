/-
  Double-precision numbers as data: a sign, an exponent field and a fraction,
  or one of the special values.  Every combination of fields is a number of its
  own, so equality of the data tells `0.0` from `-0.0`, and all arithmetic on
  them here is exact arithmetic on integers.

  * `Binary64.units` is the exact value of a finite number, counted in the
    least positive double `2^-1074`;
  * `Binary64.ofRatio` is the double nearest to a quotient of naturals, ties to
    the even mantissa, and infinite beyond the largest double;
  * `Binary64.ofDecimal` is the double nearest to `d · 10^e`.
-/
namespace Formulary

/-- The bit that a normal number has above its fraction, `2^52`. -/
abbrev Binary64.hiddenBit : Nat := 0x10000000000000

/-- A double-precision number.  A finite one has an exponent field below
    2047 and a 52-bit fraction. -/
inductive Binary64 where
  /-- A number with these three fields. -/
  | finite (negative : Bool) (exponent : Fin 2047) (fraction : Fin Binary64.hiddenBit)
  /-- An infinity of this sign. -/
  | infinite (negative : Bool)
  /-- The result of no number. -/
  | nan
deriving DecidableEq

namespace Binary64

/-! ## Exact values -/

/-- The power of two, in least units, that one step of the mantissa is worth. -/
def scale (exponent : Fin 2047) : Nat := exponent.val - 1

/-- The mantissa: the fraction, with the hidden bit of a normal number. -/
def mantissa (exponent : Fin 2047) (fraction : Fin Binary64.hiddenBit) : Nat :=
  if exponent.val = 0 then fraction.val else hiddenBit + fraction.val

/-- The magnitude of a finite number in units of `2^-1074`. -/
def magnitude (exponent : Fin 2047) (fraction : Fin Binary64.hiddenBit) : Nat :=
  mantissa exponent fraction * Nat.pow 2 (scale exponent)

/-- How many least units make up one. -/
def unitsPerOne : Nat := Nat.pow 2 1074

/-- The signed value of a finite number in units of `2^-1074`. -/
def units (negative : Bool) (exponent : Fin 2047) (fraction : Fin Binary64.hiddenBit) : Int :=
  if negative then -(magnitude exponent fraction : Int) else (magnitude exponent fraction : Int)

/-- The zero of a sign. -/
def zero (negative : Bool) : Binary64 :=
  .finite negative 0 ⟨0, by decide⟩

/-- A number that is zero, of either sign. -/
def isZero : Binary64 → Bool
  | .finite _ e f => magnitude e f == 0
  | _ => false

def isNaN : Binary64 → Bool
  | .nan => true
  | _ => false

/-- The integer a number is equal to, if there is one. -/
def toInt? : Binary64 → Option Int
  | .finite s e f =>
    let u := units s e f
    if u % (unitsPerOne : Int) = 0 then some (u / (unitsPerOne : Int)) else none
  | _ => none

/-! ## Rounding -/

/-- The natural nearest to `num / den`, the even one of two. -/
def roundHalfEven (num den : Nat) : Nat :=
  let q := num / den
  let r := num % den
  if 2 * r < den then q
  else if den < 2 * r then q + 1
  else if q % 2 = 0 then q else q + 1

/-- The number of magnitude `m · 2^k` least units, where `m < 2^53` and `m`
    has all 53 bits unless `k = 0`; infinite if there is no such number. -/
def pack (negative : Bool) (m k : Nat) : Binary64 :=
  let exponent := if m < hiddenBit then 0 else k + 1
  if h : exponent < 2047 then
    .finite negative ⟨exponent, h⟩ ⟨m % hiddenBit, Nat.mod_lt _ (by decide)⟩
  else .infinite negative

/-- The double nearest to `± num / den`. -/
def ofRatio (negative : Bool) (num den : Nat) : Binary64 :=
  let whole := num * unitsPerOne
  let shift := (whole / den).log2 - 52
  let m := roundHalfEven whole (den * Nat.pow 2 shift)
  if m = 2 * hiddenBit then pack negative hiddenBit (shift + 1) else pack negative m shift

/-- The double nearest to `± digits · 10^exponent`.  Beyond `10^400` it is
    infinite and below `10^-400` it is zero, whatever the digits are. -/
def ofDecimal (negative : Bool) (digits : Nat) (exponent : Int) : Binary64 :=
  if digits = 0 then zero negative
  else
    let size : Int := (Nat.log2 digits : Int) * 30103 / 100000 + exponent
    if size > 400 then .infinite negative
    else if size < -400 then zero negative
    else if exponent ≥ 0 then ofRatio negative (digits * Nat.pow 10 exponent.toNat) 1
    else ofRatio negative digits (Nat.pow 10 (-exponent).toNat)

end Binary64
end Formulary
