/-
  Settings of the program.

  A setting takes any value; who reads one takes of it what it needs, so
  that `strict` is whether the value of `strictCompile` counts as something.
-/
import Formulary.Fault
import Formulary.Text.WholeNumber

namespace Formulary

/-- The settings. -/
structure Settings where
  logLevel : Value := .text "INFO"
  strictCompile : Value := .bool false
  enableTracing : Value := .bool false
  traceNamePrefix : Value := .text "form-engine"
  selectPlaceholder : Value := .text "Select an option"
  textareaRows : Value := .int 4
  defaultSubmitText : Value := .text "Submit"
  transport : Value := .text "stdio"
  port : Value := .int 8080
deriving DecidableEq

namespace Settings

/-- The settings by name, in order. -/
def entries (s : Settings) : Entries :=
  [("log_level", s.logLevel), ("strict_compile", s.strictCompile),
    ("enable_tracing", s.enableTracing), ("trace_name_prefix", s.traceNamePrefix),
    ("select_placeholder", s.selectPlaceholder), ("textarea_rows", s.textareaRows),
    ("default_submit_text", s.defaultSubmitText), ("mcp_transport", s.transport),
    ("mcp_port", s.port)]

/-- Gives a setting a value, if there is a setting of the name. -/
def set? (s : Settings) (name : String) (v : Value) : Option Settings :=
  match name with
  | "log_level" => some { s with logLevel := v }
  | "strict_compile" => some { s with strictCompile := v }
  | "enable_tracing" => some { s with enableTracing := v }
  | "trace_name_prefix" => some { s with traceNamePrefix := v }
  | "select_placeholder" => some { s with selectPlaceholder := v }
  | "textarea_rows" => some { s with textareaRows := v }
  | "default_submit_text" => some { s with defaultSubmitText := v }
  | "mcp_transport" => some { s with transport := v }
  | "mcp_port" => some { s with port := v }
  | _ => none

/-- Gives settings values; names that are none are passed over. -/
def update (s : Settings) (values : Entries) : Settings :=
  values.foldl (fun s e => (s.set? e.1 e.2).getD s) s

/-- Settings of values, the others as they are by default. -/
def ofEntries (values : Entries) : Except Fault Settings :=
  values.foldlM (fun s e =>
    match s.set? e.1 e.2 with
    | some s => .ok s
    | none => .error .wrongKind) {}

/-- Whether forms have to be free of errors. -/
def strict (s : Settings) : Bool := !s.strictCompile.isFalsy

/-- Whether submits are traced. -/
def tracing (s : Settings) : Bool := !s.enableTracing.isFalsy

/-! ## The environment -/

/-- The variables that settings are read from. -/
def variableNames : List String :=
  ["FORM_ENGINE_LOG_LEVEL", "FORM_ENGINE_STRICT_COMPILE", "FORM_ENGINE_ENABLE_TRACING",
    "FORM_ENGINE_SELECT_PLACEHOLDER", "FORM_ENGINE_TEXTAREA_ROWS", "MCP_TRANSPORT", "MCP_PORT"]

/-- Whether a variable says so, in letters of any case. -/
def flag (s : String) : Bool := s.toList.map Char.toLower == "true".toList

/-- The whole number of a variable. -/
def whole (s : String) : Except Fault Value :=
  match WholeNumber.read s with
  | .ok n => .ok (.int n)
  | .error .malformed => .error (.notWhole s)
  | .error (.tooLong digits) => .error (.numeralTooLong digits)

/-- The settings that the variables of an environment ask for. -/
def ofEnvironment (env : String → Option String) : Except Fault Settings := do
  let s : Settings := {}
  let text (name : String) (v : Value) : Value := (env name).elim v .text
  let rows ← (env "FORM_ENGINE_TEXTAREA_ROWS").elim (.ok s.textareaRows) whole
  let port ← (env "MCP_PORT").elim (.ok s.port) whole
  return { s with
    logLevel := text "FORM_ENGINE_LOG_LEVEL" s.logLevel
    strictCompile := (env "FORM_ENGINE_STRICT_COMPILE").elim s.strictCompile fun v => .bool (flag v)
    enableTracing := (env "FORM_ENGINE_ENABLE_TRACING").elim s.enableTracing fun v => .bool (flag v)
    selectPlaceholder := text "FORM_ENGINE_SELECT_PLACEHOLDER" s.selectPlaceholder
    textareaRows := rows
    transport := text "MCP_TRANSPORT" s.transport
    port := port }

end Settings
end Formulary
