/-
  Reports on forms: what comes of their data, how they look, and what is wrong
  with them, each as a value and as JSON text.

  * `Report.validate` reports on a form or data that is not JSON or is refused;
  * `Report.describe` and `Report.lint` report on a form that can be read.
-/
import Formulary.Control
import Formulary.Form.Export
import Formulary.Form.Loading
import Formulary.Json.Guard

namespace Formulary

/-! ## Parts of reports -/

def FieldError.toValue (e : FieldError) : Value :=
  .record [("field_name", .text e.fieldName), ("error_type", .text e.errorType),
    ("message", .text e.message), ("received", e.received)]

def Result.toValue (r : Result) : Value :=
  .record [("is_valid", .bool r.isValid), ("errors", .list (r.errors.map FieldError.toValue)),
    ("validated_data", r.data.elim .null .record)]

/-- The values of any kind in a result: those that were refused, and the data. -/
def Result.values (r : Result) : List Value :=
  r.errors.map (·.received) ++ (r.data.getD []).map (·.2)

/-- The text of a result, an item on each line. -/
def Result.write (r : Result) : Except Fault String :=
  Json.writeGuarded .unicodeLines r.values r.toValue

def Diagnostic.toValue (d : Diagnostic) : Value :=
  .record [("field_name", .text d.fieldName), ("code", .text d.code.name),
    ("message", .text d.message), ("severity", .text d.severity.name)]

def ShownChoice.toValue (c : ShownChoice) : Value :=
  .record [("label", .text c.label), ("value", .text c.value), ("selected", .bool c.selected)]

def Control.toValue (c : Control) : Value :=
  .record [("name", .text c.name), ("label", .text c.label), ("kind", .text c.kind.name),
    ("inputType", .ofText? (c.inputType.map FieldType.name)), ("value", c.value),
    ("placeholder", .text c.placeholder), ("choices", .list (c.choices.map ShownChoice.toValue))]

namespace Report

/-! ## Validation -/

/-- What comes of validation: a result, or why there is none. -/
inductive Validation where
  | result (r : Result)
  /-- The form or its data cannot be read. -/
  | failed (errorType message : String)

/-- The report of a fault of reading a form or its data.  There is none of a text
    that is nested too deeply, nor of one with half of a pair of surrogates. -/
def failure (f : Fault) : Except Fault Validation :=
  let message := f.message?.getD ""
  match f with
  | .nestedTooDeep | .loneSurrogate => .error f
  | .unreadable ⟨.integerTooLong _, _⟩ => .ok (.failed "parse_error" message)
  | .unreadable _ => .ok (.failed "parse_error" ("Invalid JSON: " ++ message))
  | .refused _ => .ok (.failed "config_error" ("Invalid form config: " ++ message))
  | _ => .ok (.failed "parse_error" message)

namespace Validation

/-- A failure as a value. -/
def failed.toValue (errorType message : String) : Value :=
  .record [("is_valid", .bool false),
    ("errors", .list [.record [("field_name", .text "_config"), ("error_type", .text errorType),
      ("message", .text message)]]),
    ("validated_data", .null)]

def toValue : Validation → Value
  | .result r => r.toValue
  | .failed errorType message => failed.toValue errorType message

/-- The text of a report: that of a failure on one line. -/
def write : Validation → Except Fault String
  | .result r => r.write
  | .failed errorType message => .ok (Json.write .ascii (failed.toValue errorType message))

end Validation

/-- What comes of a form and its data, either of which may be unreadable.
    Whatever else goes wrong is no report. -/
def validation (settings : Settings) (form : Except Fault Form) (data : Except Fault Entries) :
    Except Fault Validation :=
  match form, data with
  | .error f, _ => failure f
  | .ok _, .error f => failure f
  | .ok form, .ok data => do
    let schema ← Schema.compile settings.strict form.fields
    return .result (← schema.validate data)

/-- The report on the text of a form and that of its data. -/
def validate (settings : Settings) (form data : String) : Except Fault String :=
  validation settings (Form.ofText form) (Form.data data) >>= Validation.write

/-! ## Description -/

/-- Values entered in a form in use, one after the other. -/
def enter (e : Engine) (values : Entries) : Except Fault Engine :=
  values.foldlM (fun e (name, v) =>
    match e.set name v with
    | (e, .ok ()) => .ok e
    | (_, .error f) => .error f) e

/-- The controls and the schemas of a form with values entered. -/
def description (settings : Settings) (form : Form) (data : Except Fault Entries) :
    Except Fault Value := do
  let e ← Engine.mount form settings.strict false
  let e ← enter e (← data)
  let r ← e.render settings
  return .record [("title", .ofText? r.title), ("submitButtonText", r.submitText),
    ("controls", .list (r.controls.map Control.toValue)),
    ("jsonSchema", ← form.jsonSchema), ("uiSchema", ← form.uiSchema)]

/-- A value as text, dates in it as their digits. -/
def write (v : Value) : Except Fault String :=
  match Json.obstacle? true v with
  | some o => .error (.ofObstacle o)
  | none => .ok (Json.write .asciiLines v)

/-- The report on how the text of a form looks, with the text of values. -/
def describe (settings : Settings) (form data : String) : Except Fault String := do
  write (← description settings (← Form.ofText form) (Form.data data))

/-! ## Diagnostics -/

/-- The diagnostics of a form. -/
def diagnostics (form : Form) : Except Fault Value := do
  return .list ((← Formulary.lint form.fields).map Diagnostic.toValue)

/-- The report on what is wrong with the text of a form. -/
def lint (form : String) : Except Fault String := do
  write (← diagnostics (← Form.ofText form))

end Report
end Formulary
