/-
  Numbers: exact integers of any size beside doubles.  They share one line:
  `Number.le` compares an integer with a double by exact value, and a value
  that is no number stands in no order to anything, itself included.
-/
import Formulary.Number.Layout

namespace Formulary

/-- An integer or a double. -/
inductive Number where
  | whole (n : Int)
  | real (x : Binary64)
deriving DecidableEq

/-- A place on the number line with its two ends, in least units of a double. -/
inductive Place where
  | lowest
  | at (units : Int)
  | highest
deriving DecidableEq

/-- The order of the line. -/
def Place.le : Place → Place → Bool
  | .lowest, _ => true
  | _, .highest => true
  | .at a, .at b => a ≤ b
  | _, _ => false

namespace Number

/-- Where a number stands, if anywhere. -/
def place? : Number → Option Place
  | .whole n => some (.at (n * (Binary64.unitsPerOne : Int)))
  | .real (.finite s e f) => some (.at (Binary64.units s e f))
  | .real (.infinite s) => some (if s then .lowest else .highest)
  | .real .nan => none

/-- Whether the first number is at most the second. -/
def le (x y : Number) : Bool :=
  match x.place?, y.place? with
  | some a, some b => a.le b
  | _, _ => false

/-- Whether two numbers have one place. -/
def same (x y : Number) : Bool := x.le y && y.le x

def isNaN : Number → Bool
  | .real x => x.isNaN
  | .whole _ => false

def isZero : Number → Bool
  | .real x => x.isZero
  | .whole n => n == 0

/-- The integer a number is equal to, if there is one. -/
def toInt? : Number → Option Int
  | .whole n => some n
  | .real x => x.toInt?

end Number

/-! ## The text of an integer -/

/-- The most digits an integer is written with or read from. -/
def maxIntegerDigits : Nat := 4300

/-- Whether an integer is too long to be written. -/
def tooLong (n : Int) : Bool := Nat.pow 10 maxIntegerDigits ≤ n.natAbs

/-- The decimal digits of an integer. -/
def writeInt (n : Int) : String :=
  (if n < 0 then "-" else "") ++ padded 1 n.natAbs

/-- A number in a layout. -/
def Number.write (layout : Layout) : Number → String
  | .whole n => writeInt n
  | .real x => x.write layout

end Formulary
