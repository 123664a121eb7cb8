/-
  A form in use: values are entered, validated and submitted.

  A submit validates the values.  If one is wrong it ends there; else the
  handler gets the data, and may itself work on the form in any way, submit it
  again included.  However the handler ends, the form is idle after it.

  * `Engine.set`, `Engine.validate`, `Engine.reset` and `Engine.submit` are the
    operations; each leaves a form and gives a result or a fault;
  * `Script` is what a handler does, and `Handler` chooses a script for data;
  * `Engine.log` records all that happens to a form, and `Engine.history`,
    `Engine.calls` and `Engine.trace` are the parts of it that concern the
    status, the handler and tracing.
-/
import Formulary.Lint
import Formulary.State

namespace Formulary

/-! ## Events -/

/-- A stretch of time in a trace. -/
inductive Span where
  /-- A submit of a form with this title. -/
  | submit (title : String)
  /-- The validation of so many fields. -/
  | validation (fields : Nat)
  /-- A call of the handler. -/
  | handler
deriving DecidableEq

/-- Something that happens to a form. -/
inductive Event where
  /-- A field is given a value. -/
  | set (name : String) (v : Value)
  /-- All fields are given back what they start from. -/
  | reset
  /-- The values are validated with this result. -/
  | validated (r : Result)
  /-- The status changes. -/
  | moved (s : Status)
  /-- The handler is called with this data, in this status. -/
  | called (data : Entries) (s : Status)
  /-- A span begins. -/
  | opened (s : Span)
  /-- A span ends. -/
  | closed (s : Span)
deriving DecidableEq

namespace Event

def status? : Event → Option Status
  | .moved s => some s
  | _ => none

def call? : Event → Option (Entries × Status)
  | .called data s => some (data, s)
  | _ => none

/-- Whether an event is the beginning or the end of a span. -/
def isSpan : Event → Bool
  | .opened _ | .closed _ => true
  | _ => false

end Event

/-! ## Handlers -/

/-- What a handler does with the form, step by step.  Each step may depend on
    what came of those before it. -/
inductive Script where
  /-- It is done. -/
  | done
  /-- It fails. -/
  | fail (f : Fault)
  /-- It looks at the state. -/
  | look (next : State → Script)
  /-- It gives a field a value. -/
  | set (name : String) (v : Value) (next : Except Fault Unit → Script)
  /-- It validates the values. -/
  | validate (next : Except Fault Result → Script)
  /-- It submits the form. -/
  | submit (next : Except Fault Result → Script)
  /-- It gives all fields back what they start from. -/
  | reset (next : Script)

/-- A step whose fault is the script's own. -/
def Script.orFail {α : Type} (next : α → Script) : Except Fault α → Script
  | .ok a => next a
  | .error f => .fail f

/-- Chooses a script for data that is submitted, given all events up to the
    call, the latest first. -/
abbrev Handler := List Event → Entries → Script

/-! ## Forms in use -/

/-- A form in use.  Its log has the latest event first, and spans only if it is
    traced. -/
structure Engine where
  form : Form
  schema : Schema
  state : State
  traced : Bool := false
  log : List Event := []

namespace Engine

/-- Puts a form to use. -/
def mount (form : Form) (strict traced : Bool) : Except Fault Engine := do
  return { form, schema := ← Schema.compile strict form.fields, state := .initial form.fields, traced }

/-- The statuses that a form has gone through, the first one first. -/
def history (e : Engine) : List Status := .idle :: (e.log.reverse.filterMap Event.status?)

/-- The calls of the handler, the first one first. -/
def calls (e : Engine) : List (Entries × Status) := e.log.reverse.filterMap Event.call?

/-- The beginnings and ends of spans, the first one first. -/
def trace (e : Engine) : List Event := e.log.reverse.filter Event.isSpan

/-! ### Steps -/

/-- Records an event. -/
def note (e : Engine) (event : Event) : Engine := { e with log := event :: e.log }

def moveTo (e : Engine) (s : Status) : Engine :=
  { e with state := { e.state with status := s } }.note (.moved s)

/-- Begins a span. -/
def enter (e : Engine) (s : Span) : Engine := if e.traced then e.note (.opened s) else e

/-- Ends a span. -/
def leave (e : Engine) (s : Span) : Engine := if e.traced then e.note (.closed s) else e

/-! ### Operations -/

/-- Gives a field a value. -/
def set (e : Engine) (name : String) (v : Value) : Engine × Except Fault Unit :=
  match e.state.set name v with
  | .ok s => ({ e with state := s }.note (.set name v), .ok ())
  | .error f => (e, .error f)

/-- Validates all values and keeps the messages. -/
def validate (e : Engine) : Engine × Except Fault Result :=
  match e.state.validate e.schema with
  | .ok (s, r) => ({ e with state := s }.note (.validated r), .ok r)
  | .error f => (e, .error f)

/-- Gives all fields back what they start from. -/
def reset (e : Engine) : Engine :=
  { e with state := .initial e.form.fields }.note .reset

end Engine

/-- Runs a script on a form, given what a submit does. -/
def Script.run (submit : Engine → Engine × Except Fault Result) :
    Script → Engine → Engine × Except Fault Unit
  | .done, e => (e, .ok ())
  | .fail f, e => (e, .error f)
  | .look next, e => (next e.state).run submit e
  | .set name v next, e =>
    let (e, r) := e.set name v
    (next r).run submit e
  | .validate next, e =>
    let (e, r) := e.validate
    (next r).run submit e
  | .submit next, e =>
    let (e, r) := submit e
    (next r).run submit e
  | .reset next, e => next.run submit e.reset

namespace Engine

/-- Calls the handler with data, given what a submit does. -/
def callHandler (submit : Engine → Engine × Except Fault Result) (h : Handler) (data : Entries)
    (e : Engine) : Engine × Except Fault Unit :=
  let e := (e.enter .handler).note (.called data e.state.status)
  let (e, outcome) := (h e.log data).run submit e
  (e.leave .handler, outcome)

/-- What follows the validation of a submit. -/
def conclude (submit : Engine → Engine × Except Fault Result) (handler? : Option Handler)
    (r : Result) (e : Engine) : Engine × Except Fault Result :=
  if r.isValid then
    let e := e.moveTo .valid
    let (e, outcome) := match handler? with
      | some h => e.callHandler submit h (r.data.getD [])
      | none => (e, .ok ())
    (e.moveTo .idle, outcome.map fun _ => r)
  else ((e.moveTo .invalid).moveTo .idle, .ok r)

/-- Submits a form, submits of its handler nested up to a depth. -/
def submitWithin (handler? : Option Handler) : Nat → Engine → Engine × Except Fault Result
  | 0, e => (e, .error .nestedTooDeep)
  | depth + 1, e =>
    let whole := Span.submit (e.form.title.getD "")
    let part := Span.validation e.schema.size
    let e := ((e.enter whole).moveTo .validating).enter part
    let (e, outcome) := e.validate
    let e := e.leave part
    let (e, outcome) := match outcome with
      | .ok r => e.conclude (submitWithin handler? depth) handler? r
      | .error f => (e, .error f)
    (e.leave whole, outcome)

/-- How deeply submits may nest.  Each takes calls of its own, of a thousand that
    may be in progress; how many more its handler takes is not modelled, so this
    number stands for one that depends on the handler. -/
def maxDepth : Nat := 200

/-- Submits a form. -/
def submit (handler? : Option Handler) (e : Engine) : Engine × Except Fault Result :=
  e.submitWithin handler? maxDepth

end Engine
end Formulary
