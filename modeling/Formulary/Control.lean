/-
  Controls: what a form looks like to who fills it in.

  Each field shows as a control of one of five kinds, bound to its value and
  its message.  A control passes on what is entered: a toggle as true or false,
  a choice as the text of what it stands for.  A field of no known type shows
  as nothing.

  * `Field.render` is the control of a field;
  * `Engine.render` are the controls of a form, one for each name, of the last
    of several fields of one name;
  * `Control.emitted` and `Control.chosen` are the values that are passed on.
-/
import Formulary.Engine
import Formulary.Settings

namespace Formulary

/-- A kind of control. -/
inductive ControlKind where
  | singleLine
  | multiLine
  | select
  | toggle
  | radioGroup
deriving DecidableEq

namespace ControlKind

def name : ControlKind → String
  | .singleLine => "single_line"
  | .multiLine => "multi_line"
  | .select => "select"
  | .toggle => "toggle"
  | .radioGroup => "radio_group"

/-- The kind of control for an input type. -/
def ofType : FieldType → ControlKind
  | .textarea => .multiLine
  | .select => .select
  | .checkbox => .toggle
  | .radio => .radioGroup
  | _ => .singleLine

/-- Whether a control of this kind has choices. -/
def hasChoices (k : ControlKind) : Bool := k = .select || k = .radioGroup

end ControlKind

/-- A choice that is shown. -/
structure ShownChoice where
  label : String
  value : String
  selected : Bool := false
deriving DecidableEq

/-- A control. -/
structure Control where
  kind : ControlKind
  name : String
  label : String
  value : Value
  error : Option String := none
  placeholder : String := ""
  inputType : Option FieldType := none
  choices : List ShownChoice := []
  emptyLabel : Value := .null
  rows : Value := .null
deriving DecidableEq

/-! ## Rendering -/

/-- A value as it shows, if it can be written. -/
def Value.shown (v : Value) : Except Fault String :=
  if v.hasLongInt then .error .integerTooLong else .ok v.display

/-- What has to be chosen for a value to be selected. -/
def Value.selection : Value → Except Fault String
  | .null => .ok ""
  | v => v.shown

/-- A choice as it shows beside a selection. -/
def Choice.shown (selection : String) (c : Choice) : Except Fault ShownChoice :=
  c.value.toValue.shown.map fun s => ⟨c.label, s, s == selection⟩

namespace Field

/-- The choices of a field beside its value. -/
def showChoices (f : Field) (v : Value) : Except Fault (List ShownChoice) := do
  let selection ← v.selection
  (f.choices.getD []).mapM (Choice.shown selection)

/-- The control of a field of a known type. -/
def control (f : Field) (t : FieldType) (settings : Settings) (v : Value)
    (error : Option String) : Except Fault Control :=
  let plain : Control :=
    { kind := .ofType t, name := f.name, label := f.label, value := v, error
      placeholder := f.placeholder.getD "" }
  match ControlKind.ofType t with
  | .singleLine => .ok { plain with inputType := some t }
  | .multiLine => .ok { plain with rows := settings.textareaRows }
  | .select => do
    return { plain with choices := ← f.showChoices v, emptyLabel := settings.selectPlaceholder }
  | .toggle => .ok { plain with value := .bool !v.isFalsy }
  | .radioGroup => do return { plain with choices := ← f.showChoices v }

/-- The control of a field, if it is of a known type.  One that is not has to be
    written for the log. -/
def render (f : Field) (settings : Settings) (v : Value) (error : Option String) :
    Except Fault (Option Control) :=
  if !f.type.isKey then .error .wrongKind
  else
    match f.type.known? with
    | some t => (f.control t settings v error).map some
    | none => if f.type.toValue.hasLongInt then .error .integerTooLong else .ok none

end Field

/-- A form as it shows. -/
structure Rendered where
  title : Option String
  controls : List Control
  submitText : Value
deriving DecidableEq

namespace Form

/-- The names of a form's fields, each once, in the order of their first. -/
def names (f : Form) : List String := (f.fields.map (·.name)).eraseDups

/-- The last field of a name. -/
def lastField? (f : Form) (name : String) : Option Field :=
  f.fields.reverse.find? (·.name = name)

/-- The fields that count: the last of each name, in the order of the first. -/
def ownFields (f : Form) : List Field := f.names.filterMap f.lastField?

end Form

namespace Engine

/-- The control of a field of a form in use. -/
def renderField (e : Engine) (settings : Settings) (f : Field) : Except Fault (Option Control) :=
  f.render settings (Schema.valueOf e.state.values f.name) (e.state.errors.lookup f.name)

/-- A form in use as it shows. -/
def render (e : Engine) (settings : Settings) : Except Fault Rendered := do
  let controls ← e.form.ownFields.filterMapM (e.renderField settings)
  let submitText := match e.form.submitText with
    | some s => if s.isEmpty then settings.defaultSubmitText else .text s
    | none => settings.defaultSubmitText
  return { title := e.form.title, controls, submitText }

end Engine

/-- The control of a name. -/
def Rendered.control (r : Rendered) (name : String) : Except Fault Control :=
  match r.controls.find? (·.name = name) with
  | some c => .ok c
  | none => .error (.noEntry name)

/-! ## Entering -/

namespace Control

def hasError (c : Control) : Bool := c.error.isSome

/-- What a control passes on of a value that is entered. -/
def emitted (c : Control) (v : Value) : Except Fault Value :=
  if c.kind = .toggle then Domain.boolean.coerce v else .ok v

/-- The texts that can be chosen. -/
def options (c : Control) : List String :=
  c.choices.map (·.value) ++ (if c.kind = .select then [""] else [])

/-- What a control passes on of a value that is chosen. -/
def chosen (c : Control) (v : Value) : Except Fault Value :=
  if !c.kind.hasChoices then .error (.noChoices c.kind.name)
  else do
    let s ← v.shown
    if c.options.contains s then return .text s else throw (.notAChoice s c.name)

end Control

namespace Engine

/-- Sets the field of a control to what the control passes on. -/
def accept (e : Engine) (c : Control) (passed : Except Fault Value) : Engine × Except Fault Unit :=
  match passed with
  | .ok v => e.set c.name v
  | .error f => (e, .error f)

/-- Enters a value in a control. -/
def emit (e : Engine) (c : Control) (v : Value) : Engine × Except Fault Unit :=
  e.accept c (c.emitted v)

/-- Chooses a value in a control. -/
def choose (e : Engine) (c : Control) (v : Value) : Engine × Except Fault Unit :=
  e.accept c (c.chosen v)

end Engine
end Formulary
