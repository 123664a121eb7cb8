/-
  Faults: why an operation has no result.

  A value that breaks the rules of its field is no fault; it has an error of
  its own in the result of validation.
-/
import Formulary.Diagnostic
import Formulary.Json.Reader
import Formulary.Json.Writer
import Formulary.Refusal
import Formulary.Text.Quoted

namespace Formulary

/-- Why a value cannot be taken as one of a kind. -/
inductive CoercionProblem where
  /-- It does not read as one. -/
  | unreadable
  /-- It is of a kind that is never taken for one. -/
  | wrongKind (expected found : String)
deriving DecidableEq

/-- Why an operation has no result. -/
inductive Fault where
  /-- A text is not JSON. -/
  | unreadable (f : Json.Failure)
  /-- The data of a form is not a record. -/
  | notARecord (kind : String)
  /-- Data does not describe what it is read as. -/
  | refused (r : Refusals)
  /-- A form has diagnostics where none are allowed. -/
  | diagnosed (ds : List Diagnostic)
  /-- A form has no field of this name. -/
  | unknownField (name : Value)
  /-- Nothing has this name. -/
  | noEntry (name : String)
  /-- No form is mounted under this id. -/
  | notMounted (id : Value)
  /-- An argument is missing that has to be given. -/
  | missingArgument (name : String)
  /-- The form is missing. -/
  | missingForm
  /-- A value is not of the kind that a field takes. -/
  | notCoercible (p : CoercionProblem)
  /-- A control of this kind has no choices. -/
  | noChoices (kind : String)
  /-- This is no choice of this field. -/
  | notAChoice (shown field : String)
  /-- This is no status. -/
  | notAStatus (v : Value)
  /-- An integer has too many digits to be written. -/
  | integerTooLong
  /-- A numeral has so many digits, which are too many. -/
  | numeralTooLong (digits : Nat)
  /-- A text is no whole number. -/
  | notWhole (s : String)
  /-- The flags of a pattern contradict each other. -/
  | flagsContradict
  /-- A pattern holds a number beyond its limits. -/
  | numberTooLarge
  /-- The submit handler failed. -/
  | handlerFailed (message : String)
  /-- Submits are nested too deeply, or lists and records that are read or written. -/
  | nestedTooDeep
  /-- A value is too deep to be written with the form or the result it is in. -/
  | tooDeepToWrite
  /-- A text holds half of a pair of surrogates.  What else becomes of such a text
      is not modelled. -/
  | loneSurrogate
  /-- A value is of a kind that an operation is not defined on. -/
  | wrongKind
  /-- A value has not the part that is asked for. -/
  | noSuchPart
deriving DecidableEq

namespace CoercionProblem

def message? : CoercionProblem → Option String
  | .unreadable => none
  | .wrongKind expected found => some ("expected a " ++ expected ++ ", got " ++ found)

end CoercionProblem

namespace Fault

/-- The limit on the digits of an integer. -/
def digitLimit : String := "Exceeds the limit (4300 digits) for integer string conversion"

/-- The way out of the limit. -/
def digitAdvice : String := "; use sys.set_int_max_str_digits() to increase the limit"

/-- The fault of a text that is not read. -/
def ofFailure (f : Json.Failure) : Fault :=
  match f.problem with
  | .nestedTooDeep => .nestedTooDeep
  | .loneSurrogate => .loneSurrogate
  | _ => .unreadable f

/-- The fault of a value that is not written. -/
def ofObstacle : Json.Obstacle → Fault
  | .integerTooLong => .integerTooLong
  | .date => .wrongKind
  | .nestedTooDeep => .nestedTooDeep

/-- The wording of a fault; some have none.  Of the wording of refusals there is
    the first line, which counts them; the lines after it, with the place and the
    wording of each, are not modelled. -/
def message? : Fault → Option String
  | .unreadable f => some f.message
  | .notARecord kind => some ("Form data must be a JSON object, got " ++ kind)
  | .refused r => some r.headline
  | .diagnosed ds =>
    some ("Invalid form configuration:\n"
      ++ "\n".intercalate (ds.map fun d => "  - " ++ d.fieldName ++ ": " ++ d.message))
  | .unknownField name => some ("No field named '" ++ name.display ++ "' in this form")
  | .noEntry name => some (Quoted.text name)
  | .notMounted id =>
    some (Quoted.text ("No form mounted for session '" ++ id.display ++ "'"))
  | .missingArgument name => some (Quoted.text name)
  | .missingForm => some "'form' is required"
  | .notCoercible p => p.message?
  | .noChoices kind => some (kind ++ " control has no choices")
  | .notAChoice shown field => some ("'" ++ shown ++ "' is not a choice of field '" ++ field ++ "'")
  | .notAStatus v => some (v.quoted ++ " is not a valid FormStatus")
  | .integerTooLong => some (digitLimit ++ digitAdvice)
  | .numeralTooLong digits =>
    some (digitLimit ++ ": value has " ++ toString digits ++ " digits" ++ digitAdvice)
  | .notWhole s => some ("invalid literal for int() with base 10: " ++ Quoted.text s)
  | .flagsContradict => some "ASCII and UNICODE flags are incompatible"
  | .handlerFailed message => some message
  | .tooDeepToWrite =>
    some "Error serializing to JSON: ValueError: Circular reference detected (depth exceeded)"
  | .numberTooLarge | .nestedTooDeep | .loneSurrogate | .wrongKind | .noSuchPart => none

end Fault
end Formulary
