/-
  The tools that the service offers, and the arguments that each takes.

  * `Tool.inputSchema` describes the arguments of a tool in JSON Schema;
  * `Tool.accepts` tells whether arguments fit the description.
-/
import Formulary.Value

namespace Formulary

/-- A tool. -/
inductive Tool where
  | validateForm
  | describeForm
  | lintForm
  | mountForm
  | setFieldValue
  | submitForm
  | unmountForm
deriving DecidableEq

/-- What an argument has to be. -/
inductive ParameterKind where
  /-- A form, as a record or as text. -/
  | form
  /-- Values by field. -/
  | values
  | text
  | any
deriving DecidableEq

/-- An argument that a tool takes. -/
structure Parameter where
  name : String
  kind : ParameterKind
  description : Option String := none
  required : Bool := true
deriving DecidableEq

namespace ParameterKind

/-- What is said of an argument wherever it is taken. -/
def description? : ParameterKind → Option String
  | .form => some ("Form config object \x7btitle?, fields: [...], submitButtonText?\x7d, "
      ++ "or a sample form name: login, registration, contact")
  | .values => some "Field values keyed by field name"
  | .text | .any => none

/-- The type of an argument in JSON Schema. -/
def typeEntries : ParameterKind → Entries
  | .form => [("oneOf", .list [.record [("type", .text "object")], .record [("type", .text "string")]])]
  | .values => [("type", .text "object")]
  | .text => [("type", .text "string")]
  | .any => []

/-- Whether a value is of the type. -/
def accepts : ParameterKind → Value → Bool
  | .form, .record _ | .form, .text _ | .values, .record _ | .text, .text _ | .any, _ => true
  | _, _ => false

end ParameterKind

namespace Parameter

/-- The description of an argument: what is said of its kind comes first for a
    form, else the type does. -/
def schema (p : Parameter) : Value :=
  let description := ((p.description.or p.kind.description?).map fun s =>
    ("description", Value.text s)).toList
  .record (if p.kind = .form then description ++ p.kind.typeEntries
    else p.kind.typeEntries ++ description)

/-- Whether an argument fits, or is missing where it may be. -/
def accepts (p : Parameter) (arguments : Entries) : Bool :=
  match arguments.lookup p.name with
  | some v => p.kind.accepts v
  | none => !p.required

end Parameter

namespace Tool

/-- Every tool. -/
def all : List Tool :=
  [.validateForm, .describeForm, .lintForm, .mountForm, .setFieldValue, .submitForm, .unmountForm]

def name : Tool → String
  | .validateForm => "validate_form"
  | .describeForm => "describe_form"
  | .lintForm => "lint_form"
  | .mountForm => "mount_form"
  | .setFieldValue => "set_field_value"
  | .submitForm => "submit_form"
  | .unmountForm => "unmount_form"

/-- The tool of a name. -/
def ofName? (s : String) : Option Tool := all.find? fun t => t.name == s

def description : Tool → String
  | .validateForm => "Validate field values against a declarative form config. "
      ++ "Returns the first violated rule per invalid field, or the coerced data."
  | .describeForm => "Describe the controls a form renders as and export its JSON Schema."
  | .lintForm => "Report problems in a form config: duplicate names, invalid names, "
      ++ "rules that have no effect on their field type."
  | .mountForm => "Mount a form and get a session id for set_field_value, submit_form "
      ++ "and unmount_form."
  | .setFieldValue => "Set one field's value on a mounted form. Does not validate."
  | .submitForm => "Validate a mounted form and, if valid, record its data as submitted."
  | .unmountForm => "Unmount a form and discard its values and submission."

/-- The arguments that a tool takes. -/
def parameters : Tool → List Parameter
  | .validateForm | .describeForm =>
    [{ name := "form", kind := .form }, { name := "values", kind := .values, required := false }]
  | .lintForm => [{ name := "form", kind := .form }]
  | .mountForm =>
    [{ name := "form", kind := .form },
      { name := "session_id", kind := .text, description := "Optional session id to use"
        required := false }]
  | .setFieldValue =>
    [{ name := "session_id", kind := .text },
      { name := "name", kind := .text, description := "Field name" },
      { name := "value", kind := .any, description := "New value" }]
  | .submitForm | .unmountForm => [{ name := "session_id", kind := .text }]

/-- The description of a tool's arguments. -/
def inputSchema (t : Tool) : Value :=
  .record [("type", .text "object"),
    ("properties", .record (t.parameters.map fun p => (p.name, p.schema))),
    ("required", .list ((t.parameters.filter (·.required)).map fun p => .text p.name))]

/-- Whether arguments fit the description. -/
def accepts (t : Tool) (arguments : Entries) : Bool :=
  t.parameters.all (·.accepts arguments)

/-- A tool as it is listed. -/
def toValue (t : Tool) : Value :=
  .record [("name", .text t.name), ("description", .text t.description),
    ("inputSchema", t.inputSchema)]

end Tool
end Formulary
