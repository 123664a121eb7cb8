/-
  Loading forms and their data from text.

  A text is the name of a sample or else JSON.
-/
import Formulary.Form.Reading
import Formulary.Sample

namespace Formulary

/-- The value of a JSON text. -/
def Value.ofJson (s : String) : Except Fault Value := (Json.read s).mapError .ofFailure

namespace Form

/-- The form of a text. -/
def ofText (s : String) : Except Fault Form :=
  match Sample.all.lookup s with
  | some form => .ok form
  | none => Value.ofJson s >>= ofValue

/-- The form of a value: a record, a list of fields, or a text. -/
def load : Value → Except Fault Form
  | .text s => ofText s
  | v => ofValue v

/-- The values of a text, none of an empty one. -/
def data (s : String) : Except Fault Entries := do
  match ← Value.ofJson (if s.isEmpty then "\x7b\x7d" else s) with
  | .record es => return es
  | v => throw (.notARecord v.kindName)

end Form
end Formulary
