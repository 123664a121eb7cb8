/-
  The service: tools that work on forms, mounted ones among them.

  * `Service.call` answers a call of a tool with a value; what is wrong with
    the arguments or the form is answered too, as a record with an error;
  * `Service.serve` answers with text, and refuses arguments that do not fit;
  * `Service.health` tells how many forms are mounted.
-/
import Formulary.Report
import Formulary.Service.Store
import Formulary.Service.Tool

namespace Formulary

/-! ## Values as they read back from JSON -/

namespace Value

mutual

/-- A value with dates as text and, if asked, infinite numbers and such that
    are none as nothing. -/
def asJson (finite : Bool) : Value → Value
  | .date d => .text d.write
  | .number (.real x) =>
    match x with
    | .finite .. => .number (.real x)
    | _ => if finite then .null else .number (.real x)
  | .list items => .list (asJsonItems finite items)
  | .record entries => .record (asJsonEntries finite entries)
  | v => v

def asJsonItems (finite : Bool) : List Value → List Value
  | [] => []
  | v :: vs => asJson finite v :: asJsonItems finite vs

def asJsonEntries (finite : Bool) : List (String × Value) → List (String × Value)
  | [] => []
  | (key, v) :: es => (key, asJson finite v) :: asJsonEntries finite es

end

/-- A value, if it can be written as JSON kind for kind. -/
def writable (v : Value) : Except Fault Value :=
  match Json.obstacle? false v with
  | some o => .error (.ofObstacle o)
  | none => .ok v

end Value

namespace Service

/-! ## Arguments -/

/-- An argument that may be missing. -/
def argument? (arguments : Value) (name : String) : Except Fault (Option Value) :=
  match arguments with
  | .record es => .ok (es.lookup name)
  | _ => .error .noSuchPart

/-- An argument that has to be there. -/
def argument (arguments : Value) (name : String) : Except Fault Value :=
  match arguments with
  | .record es => (es.lookup name).elim (.error (.missingArgument name)) .ok
  | _ => .error .wrongKind

/-- The form that is given, as a value that can be written or as text. -/
def formArgument (arguments : Value) : Except Fault Value := do
  match (← argument? arguments "form").getD .null with
  | .null => throw .missingForm
  | v => v.writable

/-- The values that are given, none if they are missing. -/
def valuesArgument (arguments : Value) : Except Fault (Except Fault Entries) := do
  match ← ((← argument? arguments "values").getD (.record [])).writable with
  | .record es => return .ok es
  | v => return .error (.notARecord v.kindName)

/-! ## Tools without a session

Each of these is the report of the same name on the text of the form and that of
the values, read again. -/

def validateForm (settings : Settings) (arguments : Value) : Except Fault Value := do
  let form ← formArgument arguments
  let values ← valuesArgument arguments
  let report ← Report.validation settings (Form.load form) values
  -- what cannot be written is no answer
  let _ ← report.write
  return report.toValue.asJson true

def describeForm (settings : Settings) (arguments : Value) : Except Fault Value := do
  let form ← formArgument arguments
  let values ← valuesArgument arguments
  let v ← Report.description settings (← Form.load form) values
  match Json.obstacle? true v with
  | some o => throw (.ofObstacle o)
  | none => return v.asJson false

def lintForm (arguments : Value) : Except Fault Value := do
  let form ← formArgument arguments
  return .record [("diagnostics", ← Report.diagnostics (← Form.load form))]

/-! ## Tools on sessions -/

/-- What is shown of a session. -/
def view (settings : Settings) (id : Value) (e : Engine) : Except Fault Entries := do
  let r ← e.render settings
  return [("session_id", id), ("status", .text e.state.status.name),
    ("values", .record e.state.values),
    ("errors", .record (e.state.errors.map fun (name, m) => (name, .text m))),
    ("fields", .list (r.controls.map fun c => .text c.name))]

/-- The id to mount a form under: the one given, or one that is generated. -/
def mountId (s : Store) (given : Value) : Store × Value :=
  if given.isFalsy then
    let count := s.generated + 1
    ({ s with generated := count }, SessionId.generated count)
  else (s, given)

def mountForm (settings : Settings) (s : Store) (arguments : Value) : Store × Except Fault Value :=
  let read : Except Fault (Form × Value) := do
    let form ← formArgument arguments
    let form ← Form.load form
    return (form, (← argument? arguments "session_id").getD .null)
  match read with
  | .error f => (s, .error f)
  | .ok (form, given) =>
    let (s, id) := mountId s given
    match Engine.mount form settings.strict settings.tracing with
    | .error f => (s, .error f)
    | .ok e =>
      if !SessionId.isKey id then (s, .error .wrongKind)
      else
        (s.mount id e,
          if id.hasLongInt then .error .integerTooLong
          else (view settings id e).map .record)

/-- Gives a field a value.  A name that is no text is none of a field. -/
def setField (e : Engine) (name v : Value) : Engine × Except Fault Unit :=
  match name with
  | .text name => e.set name v
  | .list _ | .record _ => (e, .error .wrongKind)
  | _ => (e, .error (.unknownField name))

def setFieldValue (settings : Settings) (s : Store) (arguments : Value) :
    Store × Except Fault Value :=
  let read : Except Fault (Value × Session × Value × Value) := do
    let id ← argument arguments "session_id"
    let x ← s.find id
    let name ← argument arguments "name"
    return (id, x, name, (← argument? arguments "value").getD .null)
  match read with
  | .error f => (s, .error f)
  | .ok (id, x, name, v) =>
    match setField x.engine name v with
    | (e, .ok ()) => (s.update x e, (view settings id e).map .record)
    | (e, .error f) => (s.update x e, .error f)

/-- A handler that does nothing; the data that it gets is kept. -/
def recording : Handler := fun _ _ => .done

def submitForm (settings : Settings) (s : Store) (arguments : Value) : Store × Except Fault Value :=
  let read : Except Fault (Value × Session) := do
    let id ← argument arguments "session_id"
    return (id, ← s.find id)
  match read with
  | .error f => (s, .error f)
  | .ok (id, x) =>
    let (e, outcome) := x.engine.submit recording
    let s := s.update x e
    match outcome with
    | .error f => (s, .error f)
    | .ok r =>
      let s := if r.isValid then s.submit x.id (r.data.getD []) else s
      let data : Value :=
        if r.isValid then (s.submission? id).elim .null .record else .null
      (s, (view settings id e).map fun es =>
        .record (es ++ [("submitted", .bool r.isValid), ("data", data)]))

def unmountForm (s : Store) (arguments : Value) : Store × Except Fault Value :=
  match argument arguments "session_id" with
  | .error f => (s, .error f)
  | .ok id =>
    -- nothing is looked up where there is nothing to find
    if !SessionId.isKey id && !(s.submissions.isEmpty && s.sessions.isEmpty) then
      (s, .error .wrongKind)
    else
      let found := (s.find? id).isSome
      (s.unmount id,
        if found && id.hasLongInt then .error .integerTooLong
        else .ok (.record [("session_id", id), ("unmounted", .bool found)]))

/-! ## Calls -/

/-- Runs a tool. -/
def run (settings : Settings) (s : Store) (t : Tool) (arguments : Value) :
    Store × Except Fault Value :=
  match t with
  | .validateForm => (s, validateForm settings arguments)
  | .describeForm => (s, describeForm settings arguments)
  | .lintForm => (s, lintForm arguments)
  | .mountForm => mountForm settings s arguments
  | .setFieldValue => setFieldValue settings s arguments
  | .submitForm => submitForm settings s arguments
  | .unmountForm => unmountForm s arguments

/-- An answer that says what is wrong. -/
def errorAnswer (message : String) : Value := .record [("error", .text message)]

/-- The answer to a fault, if it is one of arguments or forms; others go to the
    caller. -/
def answer (f : Fault) : Except Fault Value :=
  match f with
  | .wrongKind | .noSuchPart | .numberTooLarge | .nestedTooDeep | .loneSurrogate
  | .handlerFailed _ => .error f
  | .unknownField name =>
    if name.hasLongInt then .error .integerTooLong else .ok (errorAnswer (f.message?.getD ""))
  | _ => .ok (errorAnswer (f.message?.getD ""))

/-- Answers a call. -/
def call (settings : Settings) (s : Store) (tool : String) (arguments : Value) :
    Store × Except Fault Value :=
  match Tool.ofName? tool with
  | none => (s, .ok (errorAnswer ("Unknown tool: " ++ tool)))
  | some t =>
    match run settings s t arguments with
    | (s, .ok v) => (s, .ok v)
    | (s, .error f) => (s, answer f)

/-! ## Serving -/

/-- Whether the arguments of a call fit the tool; those of no tool fit. -/
def fits (tool : String) (arguments : Value) : Bool :=
  match Tool.ofName? tool, arguments with
  | some t, .record es => t.accepts es
  | some _, _ => false
  | none, _ => true

/-- Answers a call with text, or not at all if the arguments do not fit or
    something else is wrong than them. -/
def serve (settings : Settings) (s : Store) (tool : String) (arguments : Value) :
    Store × Option String :=
  let arguments := if arguments.isFalsy then .record [] else arguments
  if fits tool arguments then
    match call settings s tool arguments with
    | (s, .ok v) => (s, (Report.write v).toOption)
    | (s, .error _) => (s, none)
  else (s, none)

/-- What is told of the service. -/
def health (s : Store) : Value :=
  .record [("status", .text "healthy"), ("service", .text "form-engine-mcp"),
    ("transport", .text "sse"), ("mounted_forms", .int s.sessions.length)]

/-- The status and the text under a path. -/
def page (s : Store) (path : String) : Nat × String :=
  if path = "/health" then (200, Json.write .unicode (health s)) else (404, "Not Found")

end Service
end Formulary
