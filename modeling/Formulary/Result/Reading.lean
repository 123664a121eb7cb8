/-
  Reading the results of validation from data.
-/
import Formulary.Form.Reading
import Formulary.Schema

namespace Formulary

open Read

/-- The name of errors as data. -/
def FieldError.model : String := "FieldValidationError"

def FieldError.read : Value → Read FieldError :=
  Read.model model fun es =>
    FieldError.mk <$> need es ["field_name"] text
      <*> need es ["error_type"] text
      <*> need es ["message"] text
      <*> allow es ["received"] .ok .null

/-- The greatest number that is read as true or false, or as neither. -/
def maxTruth : Nat := 0x7FFFFFFFFFFFFFFF

/-- A value that says true or false in words or numbers. -/
def Read.truth (v : Value) : Read Bool :=
  match Domain.toBool? v, v with
  | some b, _ => .ok b
  | none, .text _ => fail .unclearBoolean
  | none, .number n =>
    match n.toInt? with
    | some i => fail (if i.natAbs ≤ maxTruth then .unclearBoolean else .notBoolean)
    | none => fail .notBoolean
  | none, _ => fail .notBoolean

def Read.data? : Value → Read (Option Entries)
  | .null => .ok none
  | .record es => .ok (some es)
  | _ => fail .notRecord

/-- The name of results as data. -/
def Result.model : String := "ValidationResult"

/-- The result with these errors that a record describes. -/
def Result.read (errors : List FieldError) : Value → Read Result :=
  Read.model model fun es =>
    (fun isValid data => ⟨isValid, errors, data⟩)
      <$> need es ["is_valid"] truth
      <*> allow es ["validated_data"] data? none

end Formulary
