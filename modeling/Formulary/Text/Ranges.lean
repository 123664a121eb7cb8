/-
  Sets of characters as ascending lists of ranges of code points.
-/
namespace Formulary

/-- Ranges of code points, each with its first and last, in ascending order. -/
abbrev Ranges := List (Nat × Nat)

/-- Whether a code point lies in one of the ranges. -/
def Ranges.mem : Ranges → Nat → Bool
  | [], _ => false
  | (first, last) :: rest, n =>
    if n < first then false else if n ≤ last then true else Ranges.mem rest n

end Formulary
