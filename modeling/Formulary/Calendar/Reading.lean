/-
  Reading dates from text and from numbers.

  A text is a date written out, a date with the time of midnight and perhaps an
  offset from universal time, or a number.  A number counts seconds from the
  start of 1970, or milliseconds if it is too great for seconds, and has to
  fall on midnight in the years 1600 to 9999.

  * `Date.ofText?` reads a text;
  * `Date.ofNumber?` reads a number.
-/
import Formulary.Calendar
import Formulary.Number.Reading

namespace Formulary

namespace Timestamp

/-- The greatest count that is one of seconds. -/
def watershed : Nat := 20000000000

/-- A count as seconds and microseconds, milliseconds beyond the watershed. -/
def split (n : Int) : Int × Nat :=
  if n.natAbs ≤ watershed then (n, 0) else (Int.fdiv n 1000, (Int.fmod n 1000).toNat * 1000)

/-- The first second of the year 1600. -/
def first : Int := -11676096000

/-- The last second of the year 9999. -/
def last : Int := 253402300799

/-- The date that starts at a second. -/
def midnight? (second : Int) : Option Date :=
  if second < first ∨ last < second ∨ Int.fmod second 86400 ≠ 0 then none
  else Date.ofDayNumber? (Int.fdiv second 86400)

/-- The date that starts at a count and so many microseconds. -/
def countDate? (n : Int) (micros : Nat) : Option Date :=
  let (second, extra) := split n
  let micros := micros + extra
  if micros % 1000000 = 0 then midnight? (second + (micros / 1000000 : Nat)) else none

/-- The natural nearest to `num / den`, the greater one of two. -/
def roundHalfUp (num den : Nat) : Nat := (2 * num + den) / (2 * den)

end Timestamp

namespace Date

open Timestamp

/-- The date of a number.  The distance of a double from the whole number next
    to zero counts as microseconds after the whole number below. -/
def ofNumber? : Number → Option Date
  | .whole n => countDate? n 0
  | .real (.finite s e f) =>
    let u := Binary64.units s e f
    let rest := u.natAbs % Binary64.unitsPerOne
    countDate? (Int.fdiv u Binary64.unitsPerOne)
      (roundHalfUp (rest * 1000000) Binary64.unitsPerOne)
  | .real _ => none

/-! ## Text -/

/-- The natural of the first `n` characters, if they are digits, and the rest. -/
def digits? (n : Nat) (s : List Char) : Option (Nat × List Char) := do
  guard ((s.take n).length = n)
  return (← Reading.nat? (s.take n), s.drop n)

/-- The rest of a text after a character. -/
def after? (c : Char) : List Char → Option (List Char)
  | d :: rest => if c = d then some rest else none
  | [] => none

/-- The date that a text starts with, and the rest. -/
def day? (s : List Char) : Option (Date × List Char) := do
  let (year, s) ← digits? 4 s
  let (month, s) ← digits? 2 (← after? '-' s)
  let (day, s) ← digits? 2 (← after? '-' s)
  return (← ofYMD? year month day, s)

/-- The rest of a text after the fraction of a second, if that is none to six
    places. -/
def skipFraction? (s : List Char) : Option (List Char) :=
  match s with
  | c :: rest =>
    if c = '.' ∨ c = ',' then
      let ds := rest.takeWhile Reading.isDigit
      if ds ≠ [] ∧ (ds.take 6).all (· == '0') then some (rest.dropWhile Reading.isDigit) else none
    else some s
  | [] => some []

/-- The rest of a text after the time of midnight. -/
def skipMidnight? (s : List Char) : Option (List Char) :=
  match s with
  | '0' :: '0' :: ':' :: '0' :: '0' :: ':' :: '0' :: '0' :: rest => skipFraction? rest
  | '0' :: '0' :: ':' :: '0' :: '0' :: ':' :: _ => none
  | '0' :: '0' :: ':' :: '0' :: '0' :: rest => some rest
  | _ => none

/-- Whether a text is an offset from universal time of less than a day, or
    nothing. -/
def isOffset (s : List Char) : Bool :=
  match s with
  | [] | ['Z'] | ['z'] => true
  | sign :: rest =>
    (sign == '+' || sign == '-' || sign == '\u2212') &&
      (do
        let (hours, rest) ← digits? 2 rest
        let (minutes, rest) ← digits? 2 ((after? ':' rest).getD rest)
        guard (hours < 24 ∧ minutes < 60 ∧ rest = [])).isSome

/-- Whether a text is the rest of a date with the time of midnight. -/
def isMidnight (s : List Char) : Bool :=
  match s with
  | c :: rest =>
    (c == 'T' || c == 't' || c == ' ' || c == '_') && (skipMidnight? rest).any isOffset
  | [] => false

/-- The date of a text without its sign that is a whole number. -/
def ofWhole? (negative : Bool) (s : List Char) : Option Date := do
  let n ← Reading.nat? s
  midnight? (split (if negative then -(n : Int) else n)).1

/-- The date of a text without its sign that is a number with a point. -/
def ofPoint? (negative : Bool) (s : List Char) : Option Date := do
  let whole := s.takeWhile Reading.isDigit
  let fraction ← after? '.' (s.dropWhile Reading.isDigit)
  guard (whole ≠ [] ∧ fraction ≠ [] ∧ fraction.all Reading.isDigit)
  ofNumber? (.real (.ofDecimal negative (Reading.natOfDigits (whole ++ fraction))
    (-(fraction.length : Int))))

/-- The date of a text that is a number. -/
def ofNumeral? (s : List Char) : Option Date :=
  let read (negative : Bool) (s : List Char) := (ofWhole? negative s).or (ofPoint? negative s)
  match s with
  | '-' :: rest => read true rest
  | '+' :: rest => read false rest
  | _ => read false s

/-- The date of a text. -/
def ofText? (s : String) : Option Date :=
  match day? s.toList with
  | some (d, rest) => if rest = [] ∨ isMidnight rest then some d else none
  | none => ofNumeral? s.toList

end Date
end Formulary
