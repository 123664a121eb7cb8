/-
  Reading numbers from text.

  An integer may be written with a sign, leading zeros, single underscores
  between its digits and a fraction of zeros (`+1_000.00` is 1000); a double
  with a point, an exponent and the words for infinity and for no number.
  `Number.ofText?` reads an integer where it can, exactly, and a double
  otherwise, so nothing is lost to rounding before it has to be.
-/
import Formulary.Number
import Formulary.Text.Blank

namespace Formulary.Reading

/-- Whether a character is one of the ten ASCII digits. -/
def isDigit (c : Char) : Bool := '0' ≤ c && c ≤ '9'

/-- The value of an ASCII digit. -/
def digit (c : Char) : Nat := c.toNat - '0'.toNat

/-- The natural that a string of ASCII digits stands for. -/
def natOfDigits (ds : List Char) : Nat :=
  ds.foldl (fun n c => 10 * n + digit c) 0

/-- The natural that a nonempty text of nothing but ASCII digits stands for. -/
def nat? (s : List Char) : Option Nat :=
  if s ≠ [] ∧ s.all isDigit then some (natOfDigits s) else none

/-! ## Underscores -/

/-- Whether two underscores stand side by side. -/
def hasDouble : List Char → Bool
  | '_' :: '_' :: _ => true
  | _ :: rest => hasDouble rest
  | [] => false

/-- A text without its underscores, which must be single and not at an end. -/
def dropUnderscores? (s : List Char) : Option (List Char) :=
  if s.head? = some '_' ∨ s.getLast? = some '_' ∨ hasDouble s then none
  else some (s.filter (· ≠ '_'))

/-! ## Integers -/

/-- A text without the zeros (and underscores among them) that precede its
    first other digit; the last zero before a point or the end stays. -/
def dropLeadingZeros? (s : List Char) : Option (List Char) :=
  match s with
  | '0' :: _ =>
    let rest := s.dropWhile (fun c => c == '0' || c == '_')
    match rest with
    | [] => some (s.drop (s.length - 1))
    | '.' :: _ => some (s.drop (s.length - rest.length - 1))
    | c :: _ => if isDigit c then some rest else none
  | c :: _ => if isDigit c then some s else none
  | [] => none

/-- A text without a fraction, which must be one or more zeros if it is there. -/
def dropZeroFraction (s : List Char) : List Char :=
  let whole := s.takeWhile (· ≠ '.')
  let fraction := (s.dropWhile (· ≠ '.')).drop 1
  if fraction ≠ [] ∧ fraction.all (· == '0') then whole else s

/-- The magnitude of an integer without its sign. -/
def magnitude? (s : List Char) : Option Nat := do
  let s ← dropLeadingZeros? s
  nat? (← dropUnderscores? (dropZeroFraction s))

/-- The integer that a text of at most 4300 characters stands for. -/
def int? (s : List Char) : Option Int :=
  let s := Blank.trimBy Blank.space s
  if maxIntegerDigits < s.length then none
  else match s with
    | '+' :: rest => (magnitude? rest).map Int.ofNat
    | '-' :: rest => (magnitude? rest).map (fun n => -(n : Int))
    | _ => (magnitude? s).map Int.ofNat

/-! ## Doubles -/

/-- The exponent of a double: nothing, or `e`, a sign and digits. -/
def exponent? : List Char → Option Int
  | [] => some 0
  | c :: rest =>
    if c = 'e' ∨ c = 'E' then
      match rest with
      | '+' :: ds => (nat? ds).map Int.ofNat
      | '-' :: ds => (nat? ds).map (fun n => -(n : Int))
      | ds => (nat? ds).map Int.ofNat
    else none

/-- A double without its sign: digits with at most one point, at least one of
    them, and an exponent. -/
def unsigned? (negative : Bool) (s : List Char) : Option Binary64 := do
  let whole := s.takeWhile isDigit
  let rest := s.dropWhile isDigit
  let (fraction, rest) := match rest with
    | '.' :: rest => (rest.takeWhile isDigit, rest.dropWhile isDigit)
    | _ => ([], rest)
  if whole = [] ∧ fraction = [] then none
  else
    let e ← exponent? rest
    some (.ofDecimal negative (natOfDigits (whole ++ fraction)) (e - fraction.length))

/-- The words for the special values, in any case. -/
def special? (negative : Bool) (s : List Char) : Option Binary64 :=
  match String.ofList (s.map Char.toLower) with
  | "inf" | "infinity" => some (.infinite negative)
  | "nan" => some .nan
  | _ => none

/-- The double that a text without blanks or underscores stands for. -/
def plainDouble? (s : List Char) : Option Binary64 :=
  let read negative s := (special? negative s).or (unsigned? negative s)
  match s with
  | '+' :: rest => read false rest
  | '-' :: rest => read true rest
  | _ => read false s

/-- The double that a text stands for. -/
def double? (s : List Char) : Option Binary64 :=
  let s := Blank.trimBy Blank.space s
  (plainDouble? s).or (dropUnderscores? s >>= plainDouble?)

end Formulary.Reading

namespace Formulary

/-- The number that a text stands for: an integer if it can be read as one. -/
def Number.ofText? (s : String) : Option Number :=
  ((Reading.int? s.toList).map .whole).or ((Reading.double? s.toList).map .real)

end Formulary
