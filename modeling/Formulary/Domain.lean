/-
  Domains: the kinds of value that fields take.

  `Domain.coerce` takes a value as one of a domain: a text of digits as a
  number, a word as true or false, a number as text.  What it gives is of the
  domain, and it takes that again as it is.
-/
import Formulary.Calendar.Reading
import Formulary.Fault
import Formulary.Field

namespace Formulary

/-- A kind of value. -/
inductive Domain where
  | string
  | number
  | date
  | boolean
  /-- Values of any kind. -/
  | mixed
deriving DecidableEq

namespace Domain

def name : Domain → String
  | .string => "string"
  | .number => "number"
  | .date => "date"
  | .boolean => "boolean"
  | .mixed => "mixed"

/-- The domain of an input type. -/
def ofType : FieldType → Domain
  | .number => .number
  | .date => .date
  | .checkbox => .boolean
  | _ => .string

/-- The domain of what stands in the place of a type: any values where it
    counts as none. -/
def ofTag (t : TypeTag) : Domain := t.known?.elim .mixed ofType

/-! ## Coercion -/

/-- The fault of a value of a kind that is never taken. -/
def refuse (d : Domain) (v : Value) : Fault := .notCoercible (.wrongKind d.name v.kindName)

/-- A value as text. -/
def toText : Value → Except Fault Value
  | .text s => .ok (.text s)
  | .number n =>
    if (Value.number n).hasLongInt then .error .integerTooLong
    else .ok (.text (n.write .plain))
  | v => .error (refuse .string v)

/-- A value as a number. -/
def toNumber : Value → Except Fault Value
  | .number n => number n
  | .text s =>
    match Number.ofText? (String.ofList (Blank.trimBy Blank.separator s.toList)) with
    | some n => number n
    | none => .error (.notCoercible .unreadable)
  | .bool b => .error (refuse .number (.bool b))
  | _ => .error (.notCoercible .unreadable)
where
  /-- A number, if it is one. -/
  number (n : Number) : Except Fault Value :=
    if n.isNaN then .error (.notCoercible (.wrongKind "number" "NaN")) else .ok (.number n)

/-- A value as a date. -/
def toDate : Value → Except Fault Value
  | .date d => .ok (.date d)
  | .text s => found (Date.ofText? s)
  | .number n => found (Date.ofNumber? n)
  | _ => found none
where
  /-- A date that may have been found. -/
  found : Option Date → Except Fault Value
    | some d => .ok (.date d)
    | none => .error (.notCoercible .unreadable)

/-- The words for true. -/
def yes : List String := ["1", "on", "t", "true", "y", "yes"]

/-- The words for false. -/
def no : List String := ["0", "f", "false", "n", "no", "off"]

/-- What a word in any case says. -/
def truth? (s : String) : Option Bool :=
  let word := String.ofList (s.toList.map Char.toLower)
  if yes.contains word then some true else if no.contains word then some false else none

/-- A value as true or false. -/
def toBool? : Value → Option Bool
  | .bool b => some b
  | .text s => truth? s
  | .number n =>
    if n.toInt? = some 1 then some true else if n.toInt? = some 0 then some false else none
  | _ => none

/-- A value as one of a domain. -/
def coerce : Domain → Value → Except Fault Value
  | .string, v => toText v
  | .number, v => toNumber v
  | .date, v => toDate v
  | .boolean, v =>
    match toBool? v with
    | some b => .ok (.bool b)
    | none => .error (.notCoercible .unreadable)
  | .mixed, v => .ok v

end Domain
end Formulary
