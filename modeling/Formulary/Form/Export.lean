/-
  Forms for others to use.

  * `Form.jsonSchema` describes the data of a form in JSON Schema: the type of
    each field, its choices, its value to start from and its rules, and which
    fields have to be given;
  * `Form.uiSchema` names the input for each field.
-/
import Formulary.Rule

namespace Formulary

namespace Export

/-- The type of a field's data. -/
def typeName : FieldType → String
  | .number => "number"
  | .checkbox => "boolean"
  | _ => "string"

/-- The format of a field's data, if it has one. -/
def format? : FieldType → Option String
  | .email => some "email"
  | .password => some "password"
  | .date => some "date"
  | _ => none

/-- The keyword of a kind of rule, if there is one. -/
def keyword? : RuleKind → Option String
  | .min => some "minimum"
  | .max => some "maximum"
  | .minLength => some "minLength"
  | .maxLength => some "maxLength"
  | .pattern => some "pattern"
  | _ => none

/-- The keyword and value of a rule that takes effect on a field and has an
    argument. -/
def keyword (f : Field) (r : Rule) : Option (String × Value) := do
  let k ← keyword? r.kind
  guard (r.argument ≠ .null ∧ r.kind.appliesTo f.type)
  return (k, r.argument)

/-- The choices of a field, if it has any. -/
def enum (f : Field) : List (String × Value) :=
  match f.choices with
  | some (c :: cs) => [("enum", .list ((c :: cs).map (·.value.toValue)))]
  | _ => []

/-- The description of a field.  A later rule of a kind replaces an earlier. -/
def property (f : Field) : Entries :=
  let known := f.type.known?
  let entries :=
    [("type", .text (known.elim "string" typeName)), ("title", .text f.label)]
      ++ ((known.bind format?).map fun s => ("format", Value.text s)).toList
      ++ enum f
      ++ (if f.default = .null then [] else [("default", f.default)])
  (f.rules.filterMap (keyword f)).foldl (fun es e => Entries.put e.1 e.2 es) entries

/-- The input of a field. -/
def widget (f : Field) : Except Fault Entries :=
  match f.type with
  | .declared t =>
    .ok (("ui:widget", .text t.name) ::
      (match f.placeholder with
        | some p => if p.isEmpty then [] else [("ui:placeholder", .text p)]
        | none => []))
  | .bare _ => .error .noSuchPart

end Export

namespace Form

/-- The names of fields whose values have to be given. -/
def requiredNames (f : Form) : List String :=
  (f.fields.filter (·.hasRule .required)).map (·.name)

/-- The description of a form's data. -/
def jsonSchema (f : Form) : Except Fault Value :=
  if f.fields.all (·.type.isKey) then
    .ok (.record [
      ("$schema", .text "https://json-schema.org/draft/2020-12/schema"),
      ("type", .text "object"),
      ("title", .ofText? f.title),
      ("properties", .record (Entries.ofList
        (f.fields.map fun x => (x.name, .record (Export.property x))))),
      ("required", .list (f.requiredNames.map .text))])
  else .error .wrongKind

/-- The inputs of a form. -/
def uiSchema (f : Form) : Except Fault Value := do
  let widgets ← f.fields.mapM fun x => (Export.widget x).map fun w => (x.name, Value.record w)
  return .record (Entries.ofList widgets)

end Form
end Formulary
