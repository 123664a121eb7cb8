/-
  How a number is written.  A `Layout` holds the decisions that differ between
  the two texts this library writes doubles in; `Binary64.write` is the one
  writer.  A number is written by its shortest decimal, positionally while its
  leading digit stands between `10^least` and `10^15`, and with an exponent
  outside of that range.
-/
import Formulary.Number.Shortest

namespace Formulary

/-- The decisions of one notation for doubles. -/
structure Layout where
  /-- The least exponent of a leading digit that is written positionally. -/
  least : Int
  /-- The least number of digits of a written exponent. -/
  exponentWidth : Nat
  /-- The text of the value that is no number. -/
  nan : String
  /-- The text of the infinity of a sign. -/
  infinity : Bool → String

namespace Layout

/-- Plain text: positional from `0.0001`, two digits in an exponent. -/
def plain : Layout where
  least := -4
  exponentWidth := 2
  nan := "nan"
  infinity negative := if negative then "-inf" else "inf"

/-- As in plain text, with the literals that extend JSON by the special values. -/
def literal : Layout where
  least := -4
  exponentWidth := 2
  nan := "NaN"
  infinity negative := if negative then "-Infinity" else "Infinity"

/-- Positional from `0.00001`, no padding of an exponent, and no special values. -/
def compact : Layout where
  least := -5
  exponentWidth := 1
  nan := "null"
  infinity _ := "null"

end Layout

/-- The decimal digits of a natural, at least `width` of them. -/
def padded (width n : Nat) : String :=
  let digits := Nat.toDigits 10 n
  String.ofList (List.replicate (width - digits.length) '0' ++ digits)

namespace Decimal

/-- A decimal whose leading digit stands at `10^point`, written positionally. -/
def positional (digits : List Char) (point : Int) : List Char :=
  if point < 0 then
    ['0', '.'] ++ List.replicate ((-point).toNat - 1) '0' ++ digits
  else
    let whole := point.toNat + 1
    if digits.length ≤ whole then
      digits ++ List.replicate (whole - digits.length) '0' ++ ['.', '0']
    else digits.take whole ++ ['.'] ++ digits.drop whole

/-- A decimal written as a leading digit, the rest and the exponent. -/
def scientific (width : Nat) (digits : List Char) (point : Int) : List Char :=
  let body := match digits with
    | [] => []
    | [d] => [d]
    | d :: rest => d :: '.' :: rest
  body ++ ['e', if point < 0 then '-' else '+'] ++ (padded width point.natAbs).toList

/-- A decimal in a layout. -/
def write (layout : Layout) (d : Decimal) : String :=
  let digits := Nat.toDigits 10 d.digits
  let point := d.exponent + (digits.length : Int) - 1
  String.ofList <|
    if layout.least ≤ point ∧ point < 16 then positional digits point
    else scientific layout.exponentWidth digits point

end Decimal

/-- A double in a layout. -/
def Binary64.write (layout : Layout) : Binary64 → String
  | .finite negative e f => (if negative then "-" else "") ++ (shortest e f).write layout
  | .infinite negative => layout.infinity negative
  | .nan => layout.nan

end Formulary
