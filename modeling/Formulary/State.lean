/-
  The state of a form in use: the values of its fields, the messages for those
  that are wrong, and how far a submit has come.
-/
import Formulary.Schema

namespace Formulary

/-- How far a submit has come. -/
inductive Status where
  | idle
  | validating
  | invalid
  | valid
deriving DecidableEq

namespace Status

def all : List Status := [.idle, .validating, .invalid, .valid]

def name : Status → String
  | .idle => "idle"
  | .validating => "validating"
  | .invalid => "invalid"
  | .valid => "valid"

def ofName? (s : String) : Option Status := all.find? fun x => x.name == s

/-- The status that a value names. -/
def ofValue (v : Value) : Except Fault Status :=
  match v with
  | .text s => (ofName? s).elim (.error (.notAStatus v)) .ok
  | _ => .error (.notAStatus v)

end Status

/-- Values and messages by field, and a status. -/
structure State where
  values : Entries := []
  errors : List (String × String) := []
  status : Status := .idle
deriving DecidableEq

namespace State

/-- Whether no field is known to be wrong. -/
def isValid (s : State) : Bool := s.errors.isEmpty

/-- The state that fields start from. -/
def initial (fields : List Field) : State where
  values := Entries.ofList (fields.map fun f => (f.name, f.initialValue))

/-- Gives a field a value, which is not validated. -/
def set (s : State) (name : String) (v : Value) : Except Fault State :=
  if (s.values.lookup name).isSome then .ok { s with values := Entries.put name v s.values }
  else .error (.unknownField (.text name))

/-- Replaces the messages by those of a result. -/
def record (s : State) (r : Result) : State := { s with errors := r.messages }

/-- Validates all values. -/
def validate (s : State) (schema : Schema) : Except Fault (State × Result) :=
  (schema.validate s.values).map fun r => (s.record r, r)

end State
end Formulary
