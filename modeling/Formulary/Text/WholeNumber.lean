/-
  Whole numbers in plain text: blanks around them, a sign, decimal digits of
  any script and single underscores between digits.
-/
import Formulary.Text.Blank
import Formulary.Text.Word
import Formulary.Number.Reading

namespace Formulary.WholeNumber

/-- Why a text is no whole number. -/
inductive Problem where
  | malformed
  /-- It has so many digits, which are too many. -/
  | tooLong (digits : Nat)
deriving DecidableEq

/-- The whole number of a text. -/
def read (s : String) : Except Problem Int :=
  let s := Blank.trimBy Blank.separator s.toList
  let (negative, s) := match s with
    | '-' :: rest => (true, rest)
    | '+' :: rest => (false, rest)
    | _ => (false, s)
  match Reading.dropUnderscores? s with
  | none => .error .malformed
  | some digits =>
    match digits.mapM Word.decimal? with
    | none => .error .malformed
    | some [] => .error .malformed
    | some values =>
      if maxIntegerDigits < values.length then .error (.tooLong values.length)
      else
        let n : Nat := values.foldl (fun n d => 10 * n + d) 0
        .ok (if negative then -(n : Int) else n)

end Formulary.WholeNumber
