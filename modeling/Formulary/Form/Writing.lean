/-
  Forms as data: `Form.toValue` writes what `Form.read` reads, and `Form.write`
  the text of it.
-/
import Formulary.Field
import Formulary.Json.Guard

namespace Formulary

def Choice.toValue (c : Choice) : Value :=
  .record [("label", .text c.label), ("value", c.value.toValue)]

def Rule.toValue (r : Rule) : Value :=
  .record [("kind", .text r.kind.name), ("value", r.argument), ("message", .text r.message)]

def Field.toValue (f : Field) : Value :=
  .record [
    ("name", .text f.name),
    ("label", .text f.label),
    ("type", f.type.toValue),
    ("placeholder", .ofText? f.placeholder),
    ("options", f.choices.elim .null fun cs => .list (cs.map Choice.toValue)),
    ("validationRules", .list (f.rules.map Rule.toValue)),
    ("defaultValue", f.default)]

def Form.toValue (f : Form) : Value :=
  .record [
    ("title", .ofText? f.title),
    ("fields", .list (f.fields.map Field.toValue)),
    ("submitButtonText", .ofText? f.submitText)]

/-- The values of any kind in a form: the arguments of its rules and what its
    fields start from. -/
def Form.values (f : Form) : List Value :=
  f.fields.flatMap fun x => x.default :: x.rules.map (·.argument)

/-- The text of a form.  Numbers that are no numbers or infinite are written as
    nothing. -/
def Form.write (f : Form) : Except Fault String := Json.writeGuarded .unicode f.values f.toValue

end Formulary
