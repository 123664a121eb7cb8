/-
  Reading forms from data.

  The parts of a form are records.  A key may be written in one word with
  capitals or in several with underscores, and the kind of a rule may be
  called its type; of two spellings in one record the first listed counts.
  Keys that name nothing are passed over.

  All that is wrong is reported at once, each with its place, in the order in
  which the parts of a record are listed here.
-/
import Formulary.Fault
import Formulary.Field

namespace Formulary

/-- What data is read as, or all that is wrong with it. -/
inductive Read (α : Type) where
  | ok (a : α)
  | refused (rs : List Refusal)

namespace Read

def map {α β : Type} (f : α → β) : Read α → Read β
  | .ok a => .ok (f a)
  | .refused rs => .refused rs

/-- Reads two things, whatever comes of the first. -/
def both {α β : Type} : Read (α → β) → Read α → Read β
  | .ok f, x => x.map f
  | .refused rs, .ok _ => .refused rs
  | .refused rs, .refused rs' => .refused (rs ++ rs')

instance : Applicative Read where
  pure := .ok
  map := map
  seq f x := both f (x ())

/-- A single refusal at the place in hand. -/
def fail {α : Type} (m : Mismatch) : Read α := .refused [⟨m, []⟩]

/-- Reads at a place one step further in. -/
def under {α : Type} (step : String) : Read α → Read α
  | .ok a => .ok a
  | .refused rs => .refused (rs.map (.under step))

/-! ## Plain values -/

def text : Value → Read String
  | .text s => .ok s
  | _ => fail .notText

def text? : Value → Read (Option String)
  | .null => .ok none
  | v => (text v).map some

/-- One of the names of a list. -/
def named {α : Type} (ofName? : String → Option α) (names : List String) (v : Value) : Read α :=
  match v with
  | .text s => (ofName? s).elim (fail (.notNamed names)) .ok
  | _ => fail (.notNamed names)

/-- Items from an index on. -/
def items {α : Type} (read : Value → Read α) : Nat → List Value → Read (List α)
  | _, [] => .ok []
  | i, v :: vs => List.cons <$> (read v).under (toString i) <*> items read (i + 1) vs

def list {α : Type} (read : Value → Read α) : Value → Read (List α)
  | .list vs => items read 0 vs
  | _ => fail .notList

def list? {α : Type} (read : Value → Read α) : Value → Read (Option (List α))
  | .null => .ok none
  | v => (list read v).map some

/-! ## Records -/

/-- The entry under the first of some keys that there is one for. -/
def entry? (es : Entries) (keys : List String) : Option (String × Value) :=
  keys.findSome? fun k => (es.lookup k).map (k, ·)

/-- The entry under one of some keys, which has to be there. -/
def need {α : Type} (es : Entries) (keys : List String) (read : Value → Read α) : Read α :=
  match entry? es keys with
  | some (k, v) => (read v).under k
  | none => .refused [⟨.missing, keys.take 1⟩]

/-- The entry under one of some keys, or what there is without it. -/
def allow {α : Type} (es : Entries) (keys : List String) (read : Value → Read α)
    (absent : α) : Read α :=
  match entry? es keys with
  | some (k, v) => (read v).under k
  | none => .ok absent

/-- The entries of a record that is to be of some name. -/
def model {α : Type} (name : String) (read : Entries → Read α) : Value → Read α
  | .record es => read es
  | _ => fail (.notModel name)

/-- A value that is read, or the fault of the whole. -/
def finish {α : Type} (model : String) : Read α → Except Fault α
  | .ok a => .ok a
  | .refused rs => .error (.refused ⟨model, rs⟩)

end Read

open Read

/-! ## Choices and rules -/

/-- What a choice stands for; true and false are one and zero. -/
def ChoiceValue.read : Value → Read ChoiceValue
  | .text s => .ok (.text s)
  | .number n => .ok (.number n)
  | .bool b => .ok (.number (.whole (if b then 1 else 0)))
  | _ => .refused [⟨.notText, ["str"]⟩, ⟨.notWhole, ["int"]⟩, ⟨.notReal, ["float"]⟩]

/-- The name of choices as data. -/
def Choice.model : String := "FieldOption"

def Choice.read : Value → Read Choice :=
  Read.model model fun es =>
    Choice.mk <$> need es ["label"] text <*> need es ["value"] ChoiceValue.read

/-- The name of rules as data. -/
def Rule.model : String := "ValidationRule"

def RuleKind.read : Value → Read RuleKind := named ofName? (all.map name)

def Rule.read : Value → Read Rule :=
  Read.model model fun es =>
    Rule.mk <$> need es ["kind", "type"] RuleKind.read
      <*> allow es ["value"] .ok .null
      <*> need es ["message"] text

/-! ## Fields and forms -/

def FieldType.read : Value → Read FieldType := named ofName? (all.map name)

/-- The name of fields as data. -/
def Field.model : String := "FieldConfig"

def Field.read : Value → Read Field :=
  Read.model model fun es =>
    Field.mk <$> need es ["name"] text
      <*> need es ["label"] text
      <*> .declared <$> need es ["type"] FieldType.read
      <*> allow es ["placeholder"] text? none
      <*> allow es ["options"] (list? Choice.read) none
      <*> allow es ["validationRules", "validation_rules"] (list Rule.read) []
      <*> allow es ["defaultValue", "default_value"] .ok .null

/-- A handler cannot be given as data. -/
def readHandler : Value → Read Unit
  | .null => .ok ()
  | _ => fail .notCallable

/-- The name of forms as data. -/
def Form.model : String := "FormConfig"

def Form.read : Value → Read Form :=
  Read.model model fun es =>
    (fun title fields submitText _ => Form.mk title fields submitText)
      <$> allow es ["title"] text? none
      <*> need es ["fields"] (list Field.read)
      <*> allow es ["submitButtonText", "submit_button_text"] text? none
      <*> allow es ["onSubmit", "on_submit"] readHandler ()

namespace Form

/-- The form of a value: a record, or a list of fields. -/
def ofValue : Value → Except Fault Form
  | .list fields => (Form.read (.record [("fields", .list fields)])).finish model
  | v => (Form.read v).finish model

end Form

/-! ## Forms put together by hand -/

/-- An entry that has to be a text. -/
def Value.textAt (es : Entries) (key : String) : Except Fault String :=
  match es.lookup key with
  | some (.text s) => .ok s
  | some _ => .error .wrongKind
  | none => .error .noSuchPart

/-- An entry that may be a text. -/
def Value.textAt? (es : Entries) (key : String) : Option String :=
  match es.lookup key with
  | some (.text s) => some s
  | _ => none

/-- Items of an entry, each read by itself. -/
def Value.itemsAt? {α : Type} (es : Entries) (key : String) (read : Value → Except Fault α) :
    Except Fault (Option (List α)) :=
  match es.lookup key with
  | some (.list vs) => (vs.mapM read).map some
  | some .null | none => .ok none
  | some _ => .error .wrongKind

/-- A field of parts as they are.  Only its rules and choices are read; any
    value stands for a type. -/
def Field.assemble (es : Entries) : Except Fault Field := do
  let rules ← Value.itemsAt? es "validation_rules" fun v => (Rule.read v).finish Rule.model
  let choices ← Value.itemsAt? es "options" fun v => (Choice.read v).finish Choice.model
  let some type := es.lookup "type" | throw .noSuchPart
  return {
    name := ← Value.textAt es "name"
    label := ← Value.textAt es "label"
    type := .bare type
    placeholder := Value.textAt? es "placeholder"
    choices
    rules := rules.getD []
    default := (es.lookup "default_value").getD .null }

/-- A form of fields as they are. -/
def Form.assemble (es : Entries) : Except Fault Form := do
  let fields ← Value.itemsAt? es "fields" fun
    | .record es => Field.assemble es
    | _ => .error .wrongKind
  return {
    title := Value.textAt? es "title"
    fields := fields.getD []
    submitText := Value.textAt? es "submit_button_text" }

end Formulary
