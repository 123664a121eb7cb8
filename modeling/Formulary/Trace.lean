/-
  Traces as they are read: the names of spans, what is known of them, and the
  lines of a console.
-/
import Formulary.Engine
import Formulary.Settings

namespace Formulary

namespace Span

/-- Whether a span is the whole of a trace. -/
def isWhole : Span → Bool
  | .submit _ => true
  | _ => false

/-- The name of a span; that of a trace starts with a word of its own. -/
def name (settings : Settings) : Span → String
  | .submit _ => settings.traceNamePrefix.display ++ ".submit"
  | .validation _ => "validate_all"
  | .handler => "submit_handler"

/-- What is known of a span. -/
def data : Span → Entries
  | .submit title => [("title", .text title)]
  | .validation fields => [("fields", .int fields)]
  | .handler => []

/-- A span as it shows. -/
def display (settings : Settings) (s : Span) : String :=
  (Value.record [("type", .text "custom"), ("name", .text (s.name settings)),
    ("data", .record s.data)]).quoted

end Span

/-- The line of an event on a console, if it has one: traces have lines, with
    an id at their beginning, and other spans if it is verbose. -/
def Event.line? (settings : Settings) (verbose : Bool) (id : String) : Event → Option String
  | .opened s =>
    if s.isWhole then some ("[TRACE START] " ++ s.name settings ++ " (ID: " ++ id ++ ")")
    else if verbose then some ("  ├─ [SPAN START] " ++ s.display settings)
    else none
  | .closed s =>
    if s.isWhole then some ("[TRACE END] " ++ s.name settings)
    else if verbose then some ("  └─ [SPAN END] " ++ s.display settings)
    else none
  | _ => none

end Formulary
