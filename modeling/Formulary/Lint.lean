/-
  The problems of a form that it works in spite of: names that are no
  identifiers or are repeated, types that are none, rules without effect and
  choice fields without choices.

  * `lint` lists the diagnostics of fields;
  * `Schema.compile` is the schema of fields, which strictly have to be free
    of errors.
-/
import Formulary.Schema

namespace Formulary

namespace Lint

/-! ## Names -/

/-- Whether a character may stand in a name. -/
def isNameChar (c : Char) : Bool := c.isAlphanum || c == '_'

/-- Whether a text is a name: letters, digits and underscores, no digit first.
    A line feed may follow. -/
def isName (s : List Char) : Bool :=
  let s := if s.getLast? = some '\n' then s.dropLast else s
  match s with
  | [] => false
  | c :: rest => isNameChar c && !c.isDigit && rest.all isNameChar

/-- The most characters of a name. -/
def maxNameLength : Nat := 100

/-- What is wrong with a name, if anything. -/
def nameProblem? (name : String) : Option String :=
  if name.isEmpty then some "Field name cannot be empty"
  else if maxNameLength < name.length then some "Field name too long"
  else if !isName name.toList then some "Invalid characters in field name"
  else none

/-- The diagnostic of a field's name, if any. -/
def name? (f : Field) : Option Diagnostic :=
  (nameProblem? f.name).map fun m => ⟨f.name, .invalidFieldName, m, .error⟩

/-- The diagnostics of names that are repeated, in the order of their first
    fields. -/
def duplicates (names : List String) : List Diagnostic :=
  names.eraseDups.filterMap fun n =>
    let count := names.count n
    if 1 < count then
      some ⟨n, .duplicateName, "Field name defined " ++ toString count
        ++ " times; only the last definition is used", .error⟩
    else none

/-! ## Rules -/

/-- The diagnostic of a rule on a field of a declared type, if any. -/
def rule? (f : Field) (t : FieldType) (r : Rule) : Except Fault (Option Diagnostic) :=
  if r.kind.isPresence then .ok none
  else if !r.kind.appliesTo f.type then
    .ok (some ⟨f.name, .incompatibleRule,
      "'" ++ r.kind.name ++ "' rule has no effect on a " ++ t.name ++ " field", .error⟩)
  else
    match r.isUsable with
    | .error e => .error e
    | .ok true => .ok none
    | .ok false =>
      if r.argument.hasLongInt then .error .integerTooLong
      else .ok (some ⟨f.name, .malformedRuleValue,
        "'" ++ r.kind.name ++ "' rule has unusable value " ++ r.argument.quoted, .error⟩)

/-- The diagnostic of a field whose value both has to be given and need not. -/
def presence? (f : Field) : Option Diagnostic :=
  if f.hasRule .optional && f.hasRule .required then
    some ⟨f.name, .redundantOptional, "'optional' rule is ignored on a required field", .warning⟩
  else none

/-- The diagnostic of a field of a declared type that lacks choices, if any. -/
def choices? (f : Field) (t : FieldType) : Option Diagnostic :=
  if t.isChoice && (f.choices.getD []).isEmpty then
    some ⟨f.name, .missingOptions, t.name ++ " field has no options", .warning⟩
  else none

/-! ## Fields -/

/-- The diagnostics of a field by itself. -/
def field (f : Field) : Except Fault (List Diagnostic) :=
  match f.type with
  | .bare v =>
    if v.hasLongInt then .error .integerTooLong
    else .ok ((name? f).toList ++ [⟨f.name, .unknownFieldType,
      "Unknown field type " ++ v.quoted ++ "; the field is not validated or rendered", .error⟩])
  | .declared t => do
    let rules ← f.rules.filterMapM (rule? f t)
    return (name? f).toList ++ rules ++ (presence? f).toList ++ (choices? f t).toList

end Lint

/-- The diagnostics of fields. -/
def lint (fields : List Field) : Except Fault (List Diagnostic) := do
  let each ← fields.mapM Lint.field
  return Lint.duplicates (fields.map (·.name)) ++ each.flatten

/-- The schema of fields.  If it is strict, they have to be free of errors. -/
def Schema.compile (strict : Bool) (fields : List Field) : Except Fault Schema := do
  if strict then
    let errors := (← lint fields).filter (·.severity = .error)
    if !errors.isEmpty then throw (.diagnosed errors)
  Schema.ofFields fields

end Formulary
