/-
  Refusals: what is wrong with data that is read as a form or a part of one.

  Each has its place, the keys and indices that lead to it.
-/
namespace Formulary

/-- What data can be wrong as. -/
inductive Mismatch where
  /-- A key that has to be there is not. -/
  | missing
  | notText
  | notWhole
  | notReal
  | notList
  | notRecord
  | notCallable
  /-- Neither true nor false. -/
  | notBoolean
  /-- Of a kind that can be read as true or false, but is neither. -/
  | unclearBoolean
  /-- Not a record of this name. -/
  | notModel (name : String)
  /-- None of these names. -/
  | notNamed (names : List String)
deriving DecidableEq

namespace Mismatch

/-- The code of a mismatch. -/
def code : Mismatch → String
  | .missing => "missing"
  | .notText => "string_type"
  | .notWhole => "int_type"
  | .notReal => "float_type"
  | .notList => "tuple_type"
  | .notRecord => "dict_type"
  | .notCallable => "callable_type"
  | .notBoolean => "bool_type"
  | .unclearBoolean => "bool_parsing"
  | .notModel _ => "model_type"
  | .notNamed _ => "enum"

/-- Names in quotes, with commas between them and the last after "or". -/
def alternatives : List String → String
  | [] => ""
  | [n] => "'" ++ n ++ "'"
  | [m, n] => "'" ++ m ++ "' or '" ++ n ++ "'"
  | n :: ns => "'" ++ n ++ "', " ++ alternatives ns

def message : Mismatch → String
  | .missing => "Field required"
  | .notText => "Input should be a valid string"
  | .notWhole => "Input should be a valid integer"
  | .notReal => "Input should be a valid number"
  | .notList => "Input should be a valid tuple"
  | .notRecord => "Input should be a valid dictionary"
  | .notCallable => "Input should be callable"
  | .notBoolean => "Input should be a valid boolean"
  | .unclearBoolean => "Input should be a valid boolean, unable to interpret input"
  | .notModel name => "Input should be a valid dictionary or instance of " ++ name
  | .notNamed names => "Input should be " ++ alternatives names

end Mismatch

/-- A mismatch and its place. -/
structure Refusal where
  mismatch : Mismatch
  place : List String
deriving DecidableEq

/-- A refusal seen from one step further out. -/
def Refusal.under (step : String) (r : Refusal) : Refusal :=
  { r with place := step :: r.place }

/-- All that is wrong with data that is read as a record of some name. -/
structure Refusals where
  model : String
  refusals : List Refusal
deriving DecidableEq

/-- The first line of a report. -/
def Refusals.headline (r : Refusals) : String :=
  let n := r.refusals.length
  toString n ++ " validation error" ++ (if n = 1 then "" else "s") ++ " for " ++ r.model

end Formulary
