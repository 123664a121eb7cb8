/-
  Schemas: what a form accepts.

  A field becomes a validator, and the fields of a form a schema: a validator
  for each name, where the last of several fields of one name counts.  Each
  validator looks at its own value only, and reports the first thing wrong
  with it.

  * `Field.compile` is the validator of a field;
  * `Validator.validate` is the outcome of one value;
  * `Schema.validate` is the result for all values of a form.
-/
import Formulary.Rule

namespace Formulary

/-! ## Outcomes -/

/-- What is wrong with the value of a field. -/
structure FieldError where
  fieldName : String
  errorType : String
  message : String
  received : Value := .null
deriving DecidableEq

/-- What comes of one value: what it is taken as, or what is wrong with it. -/
inductive Outcome where
  | accepted (v : Value)
  | rejected (e : FieldError)
deriving DecidableEq

namespace Outcome

def isValid : Outcome → Bool
  | .accepted _ => true
  | .rejected _ => false

/-- The value that is taken; nothing of one that is wrong. -/
def value : Outcome → Value
  | .accepted v => v
  | .rejected _ => .null

def error? : Outcome → Option FieldError
  | .accepted _ => none
  | .rejected e => some e

end Outcome

/-- What comes of the values of a form: what is wrong with them, or the data
    that they are taken as. -/
structure Result where
  isValid : Bool
  errors : List FieldError := []
  data : Option Entries := none
deriving DecidableEq

namespace Result

/-- What is wrong with a field, if anything. -/
def error? (r : Result) (name : String) : Option FieldError :=
  r.errors.find? (·.fieldName = name)

/-- The messages by the names of their fields. -/
def messages (r : Result) : List (String × String) :=
  Entries.ofList (r.errors.map fun e => (e.fieldName, e.message))

end Result

/-! ## Validators -/

/-- What a field accepts: values of its domain that pass its checks in order;
    a message if a value has to be given. -/
structure Validator where
  name : String
  label : String
  type : TypeTag
  domain : Domain
  checks : List Check := []
  requiredMessage : Option String := none

/-- Whether a value counts as not given. -/
def Value.isBlank (v : Value) : Bool := v = .null || v = .text ""

namespace Validator

def isRequired (v : Validator) : Bool := v.requiredMessage.isSome

/-- The error of a value. -/
def error (v : Validator) (errorType message : String) (raw : Value) : Outcome :=
  .rejected ⟨v.name, errorType, message, raw⟩

/-- The outcome of a value in the domain, after the checks that are left. -/
def run (v : Validator) (raw value : Value) : List Check → Except Fault Outcome
  | [] => .ok (.accepted value)
  | c :: cs =>
    match c.passes value with
    | .error e => .error e
    | .ok true => v.run raw value cs
    | .ok false => .ok (v.error c.kind.name c.message raw)

/-- The outcome of a value that is given and of the domain.  A box that has to
    be ticked is not given if it is false. -/
def judge (v : Validator) (raw value : Value) : Except Fault Outcome :=
  match v.requiredMessage with
  | some m =>
    if v.domain = .boolean ∧ value = .bool false then
      .ok (v.error RuleKind.required.name m raw)
    else v.run raw value v.checks
  | none => v.run raw value v.checks

/-- The outcome of a value. -/
def validate (v : Validator) (raw : Value) : Except Fault Outcome :=
  if raw.isBlank then
    match v.requiredMessage with
    | some m => .ok (v.error RuleKind.required.name m raw)
    | none => .ok (.accepted .null)
  else
    match v.domain.coerce raw with
    | .ok value => v.judge raw value
    | .error (.notCoercible _) =>
      .ok (v.error "type" (v.label ++ " must be a valid " ++ v.domain.name) raw)
    | .error e => .error e

end Validator

namespace Field

/-- The checks of a field, in the order of its rules. -/
def checks (f : Field) : Except Fault (List Check) :=
  f.rules.filterMapM (·.check? f.type)

/-- The message of the first rule by which a value has to be given. -/
def requiredMessage (f : Field) : Option String :=
  (f.rules.find? (·.kind = .required)).map (·.message)

/-- The validator of a field. -/
def compile (f : Field) : Except Fault Validator := do
  let checks ← f.checks
  if !f.type.isKey then throw .wrongKind
  return {
    name := f.name
    label := f.label
    type := f.type
    domain := .ofTag f.type
    checks
    requiredMessage := f.requiredMessage }

end Field

/-! ## Schemas -/

/-- Validators by name, in order, one for each name. -/
structure Schema where
  validators : List (String × Validator)
  distinct : (Entries.keys validators).Nodup

namespace Schema

/-- The schema of no fields. -/
def empty : Schema := ⟨[], List.nodup_nil⟩

/-- Adds the validator of a field, in the place of one of the same name. -/
def add (s : Schema) (f : Field) : Except Fault Schema := do
  let v ← f.compile
  return ⟨Entries.put f.name v s.validators, Entries.nodup_keys_put s.distinct f.name v⟩

/-- The schema of fields. -/
def ofFields (fields : List Field) : Except Fault Schema := fields.foldlM add empty

def names (s : Schema) : List String := Entries.keys s.validators

def size (s : Schema) : Nat := s.validators.length

/-- The validator of a name. -/
def get? (s : Schema) (name : String) : Option Validator := s.validators.lookup name

/-- The outcome of a value for a field. -/
def validateField (s : Schema) (name : String) (raw : Value) : Except Fault Outcome :=
  match s.get? name with
  | some v => v.validate raw
  | none => .error (.noEntry name)

/-- The value of a name; nothing if there is none. -/
def valueOf (values : Entries) (name : String) : Value := (values.lookup name).getD .null

/-- The outcomes of values, by name. -/
def outcomes (s : Schema) (values : Entries) : Except Fault (List (String × Outcome)) :=
  s.validators.mapM fun (name, v) => (v.validate (valueOf values name)).map (name, ·)

/-- The result that outcomes make up. -/
def summary (outcomes : List (String × Outcome)) : Result :=
  let errors := outcomes.filterMap (·.2.error?)
  let data := (outcomes.filter fun o => o.2.value ≠ .null).map fun o => (o.1, o.2.value)
  { isValid := errors.isEmpty, errors, data := if errors.isEmpty then some data else none }

/-- The result for values. -/
def validate (s : Schema) (values : Entries) : Except Fault Result :=
  (s.outcomes values).map summary

/-- A schema as it shows. -/
def display (s : Schema) : String :=
  "CompiledSchema(" ++ (Value.list (s.names.map .text)).quoted ++ ")"

end Schema
end Formulary
