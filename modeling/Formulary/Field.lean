/-
  Fields: what a form asks for.

  A field has a name, a label, an input type, rules for what may be entered and
  a value to start from; a field to choose from has choices.  A form is a list
  of fields with a title and the text of its button.

  Forms that are read from data have declared input types only.  One that is
  put together by hand can carry any other value in the place of a type; such
  a field still counts as one of a declared type if the value is its name.

  Names, labels and messages are texts also in such a form, and no submit handler
  stands in it: one is given to the form in use.  What else could stand there is
  not modelled.
-/
import Formulary.Value

namespace Formulary

/-! ## Input types -/

/-- An input type. -/
inductive FieldType where
  | text
  | email
  | password
  | number
  | date
  | select
  | checkbox
  | radio
  | textarea
deriving DecidableEq

namespace FieldType

/-- Every input type. -/
def all : List FieldType :=
  [.text, .email, .password, .number, .date, .select, .checkbox, .radio, .textarea]

def name : FieldType → String
  | .text => "text"
  | .email => "email"
  | .password => "password"
  | .number => "number"
  | .date => "date"
  | .select => "select"
  | .checkbox => "checkbox"
  | .radio => "radio"
  | .textarea => "textarea"

/-- The input type of a name. -/
def ofName? (s : String) : Option FieldType := all.find? fun t => t.name == s

theorem ofName?_name (t : FieldType) : ofName? t.name = some t := by cases t <;> decide

/-- Whether text is typed into a field of this type. -/
def isTextEntry (t : FieldType) : Bool :=
  t = .text || t = .password || t = .email || t = .textarea

/-- Whether a field of this type is chosen from a list. -/
def isChoice (t : FieldType) : Bool := t = .select || t = .radio

end FieldType

/-- What stands in the place of a field's type. -/
inductive TypeTag where
  /-- A declared input type. -/
  | declared (t : FieldType)
  /-- Any value, put there by hand. -/
  | bare (v : Value)
deriving DecidableEq

namespace TypeTag

/-- The input type that a tag counts as. -/
def known? : TypeTag → Option FieldType
  | .declared t => some t
  | .bare (.text s) => FieldType.ofName? s
  | .bare _ => none

/-- Whether a tag can be looked up among the input types.  Lists and records
    cannot. -/
def isKey : TypeTag → Bool
  | .bare (.list _) | .bare (.record _) => false
  | _ => true

/-- The value a tag shows as. -/
def toValue : TypeTag → Value
  | .declared t => .text t.name
  | .bare v => v

end TypeTag

/-! ## Rules -/

/-- What a rule asks for. -/
inductive RuleKind where
  | required
  | optional
  | email
  | min
  | max
  | pattern
  | minLength
  | maxLength
deriving DecidableEq

namespace RuleKind

/-- Every kind of rule. -/
def all : List RuleKind :=
  [.required, .optional, .email, .min, .max, .pattern, .minLength, .maxLength]

def name : RuleKind → String
  | .required => "required"
  | .optional => "optional"
  | .email => "email"
  | .min => "min"
  | .max => "max"
  | .pattern => "pattern"
  | .minLength => "minLength"
  | .maxLength => "maxLength"

/-- The kind of a name. -/
def ofName? (s : String) : Option RuleKind := all.find? fun k => k.name == s

theorem ofName?_name (k : RuleKind) : ofName? k.name = some k := by cases k <;> decide

/-- Whether a rule of this kind says only whether a value has to be given. -/
def isPresence (k : RuleKind) : Bool := k = .required || k = .optional

end RuleKind

/-- A rule: its kind, its argument and the message for a value that breaks it. -/
structure Rule where
  kind : RuleKind
  argument : Value := .null
  message : String
deriving DecidableEq

/-! ## Choices -/

/-- What a choice stands for. -/
inductive ChoiceValue where
  | text (s : String)
  | number (n : Number)
deriving DecidableEq

def ChoiceValue.toValue : ChoiceValue → Value
  | .text s => .text s
  | .number n => .number n

/-- A choice: its text and what it stands for. -/
structure Choice where
  label : String
  value : ChoiceValue
deriving DecidableEq

/-! ## Fields and forms -/

/-- A field. -/
structure Field where
  name : String
  label : String
  type : TypeTag
  placeholder : Option String := none
  choices : Option (List Choice) := none
  rules : List Rule := []
  default : Value := .null
deriving DecidableEq

namespace Field

/-- The value of a field into which nothing is entered. -/
def emptyValue (f : Field) : Value :=
  if f.type.known? = some .checkbox then .bool false else .text ""

/-- The value a field starts from. -/
def initialValue (f : Field) : Value :=
  if f.default = .null then f.emptyValue else f.default

/-- Whether a field has a rule of a kind. -/
def hasRule (f : Field) (kind : RuleKind) : Bool := f.rules.any (·.kind = kind)

end Field

/-- A form. -/
structure Form where
  title : Option String := none
  fields : List Field
  submitText : Option String := none
deriving DecidableEq

end Formulary
