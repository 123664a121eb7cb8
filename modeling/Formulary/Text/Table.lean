/-
  Tables of numbers as text: rows end in a semicolon, and the numbers of a row
  are set apart by blanks.
-/
import Formulary.Number.Reading

namespace Formulary.Table

/-- The rows of a table. -/
def rows (text : String) : List (List Nat) :=
  (text.splitOn ";").map fun row =>
    (row.splitOn " ").map fun n => Reading.natOfDigits n.toList

end Formulary.Table
