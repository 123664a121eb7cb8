/-
  Reports as tools of an assistant, which passes arguments by name and gets a
  text, whatever goes wrong.
-/
import Formulary.Report

namespace Formulary

/-- A report that an assistant can ask for. -/
inductive AssistantTool where
  | validate
  | describe
  | lint
deriving DecidableEq

namespace AssistantTool

def all : List AssistantTool := [.validate, .describe, .lint]

def name : AssistantTool → String
  | .validate => "validate_form_data_tool"
  | .describe => "describe_form_tool"
  | .lint => "lint_form_tool"

def ofName? (s : String) : Option AssistantTool := all.find? fun t => t.name == s

/-- A text among the arguments. -/
def text? (arguments : Value) (name : String) : Option String :=
  match arguments.get? name with
  | some (.text s) => some s
  | _ => none

/-- A text among the arguments that may be missing or null. -/
def optionalText? (arguments : Value) (name : String) : Option String :=
  match (arguments.get? name).getD .null with
  | .text s => some s
  | .null => some ""
  | _ => none

/-- The report for arguments, if they fit and nothing goes wrong. -/
def report? (settings : Settings) (t : AssistantTool) (arguments : Value) : Option String := do
  let form ← text? arguments "form_config_json"
  let report ← match t with
    | .validate => some (Report.validate settings form (← text? arguments "form_data_json"))
    | .describe => some (Report.describe settings form (← optionalText? arguments "form_data_json"))
    | .lint => some (Report.lint form)
  report.toOption

/-- The text for whatever goes wrong. -/
def apology : String := "An error occurred while running the tool. Please try again."

def invoke (settings : Settings) (t : AssistantTool) (arguments : Value) : String :=
  (report? settings t arguments).getD apology

end AssistantTool
end Formulary
