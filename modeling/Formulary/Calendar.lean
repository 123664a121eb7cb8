/-
  Dates of the proleptic Gregorian calendar, from year 1 to year 9999.

  * `Date.ofYMD?` makes a date of a year, month and day that name one;
  * `Date.ofDayNumber?` is the date so many days after the first of January
    1970.
-/
import Formulary.Number.Layout

namespace Formulary

namespace Calendar

def isLeap (year : Nat) : Bool :=
  year % 4 = 0 && (year % 100 ≠ 0 || year % 400 = 0)

/-- The number of days of a month; none of a month that there is not. -/
def daysIn (year month : Nat) : Nat :=
  match month with
  | 1 | 3 | 5 | 7 | 8 | 10 | 12 => 31
  | 4 | 6 | 9 | 11 => 30
  | 2 => if isLeap year then 29 else 28
  | _ => 0

/-- Whether a year, a month and a day name a date. -/
def names (year month day : Nat) : Bool :=
  1 ≤ year && year ≤ 9999 && 1 ≤ day && day ≤ daysIn year month

end Calendar

/-- A date. -/
structure Date where
  year : Nat
  month : Nat
  day : Nat
  named : Calendar.names year month day = true
deriving DecidableEq

namespace Date

def ofYMD? (year month day : Nat) : Option Date :=
  if h : Calendar.names year month day = true then some ⟨year, month, day, h⟩ else none

/-- Four digits of the year, two of the month and two of the day. -/
def write (d : Date) : String :=
  padded 4 d.year ++ "-" ++ padded 2 d.month ++ "-" ++ padded 2 d.day

/-- The date so many days after the first of January 1970, or before it, if it
    lies in the calendar.  Years are counted from March, so that the leap day ends
    one. -/
def ofDayNumber? (n : Int) : Option Date :=
  let z := n + 719468
  let era := Int.fdiv z 146097
  let doe := z - era * 146097
  let yoe := (doe - doe / 1460 + doe / 36524 - doe / 146096) / 365
  let doy := doe - (365 * yoe + yoe / 4 - yoe / 100)
  let mp := (5 * doy + 2) / 153
  let day := doy - (153 * mp + 2) / 5 + 1
  let month := if mp < 10 then mp + 3 else mp - 9
  let year := yoe + era * 400 + (if month ≤ 2 then 1 else 0)
  if year < 1 then none else ofYMD? year.toNat month.toNat day.toNat

end Date
end Formulary
