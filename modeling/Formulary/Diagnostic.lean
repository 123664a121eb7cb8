/-
  Diagnostics: problems of a form that it works in spite of.
-/
namespace Formulary

/-- How grave a diagnostic is. -/
inductive Severity where
  | error
  | warning
deriving DecidableEq

def Severity.name : Severity → String
  | .error => "error"
  | .warning => "warning"

/-- What a diagnostic is about. -/
inductive DiagnosticCode where
  | invalidFieldName
  | duplicateName
  | unknownFieldType
  | incompatibleRule
  | malformedRuleValue
  | missingOptions
  | redundantOptional
deriving DecidableEq

def DiagnosticCode.name : DiagnosticCode → String
  | .invalidFieldName => "invalid_field_name"
  | .duplicateName => "duplicate_name"
  | .unknownFieldType => "unknown_field_type"
  | .incompatibleRule => "incompatible_rule"
  | .malformedRuleValue => "malformed_rule_value"
  | .missingOptions => "missing_options"
  | .redundantOptional => "redundant_optional"

/-- A problem of a field. -/
structure Diagnostic where
  fieldName : String
  code : DiagnosticCode
  message : String
  severity : Severity := .error
deriving DecidableEq

end Formulary
