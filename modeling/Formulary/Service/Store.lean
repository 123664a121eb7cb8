/-
  The forms that are mounted, each under an id, and the data submitted last in
  each.

  Ids are any values but lists and records.  Numbers that are equal are one id,
  true and false among them as one and zero, and what is no number is no id
  that could be found again.

  * `Store.find` is the session of an id;
  * `Store.mount`, `Store.update` and `Store.unmount` change one session only.
-/
import Formulary.Engine

namespace Formulary

namespace SessionId

/-- Whether a value can be an id. -/
def isKey : Value → Bool
  | .list _ | .record _ => false
  | _ => true

/-- The number that an id is, if it is one. -/
def number? : Value → Option Number
  | .number n => some n
  | .bool b => some (.whole (if b then 1 else 0))
  | _ => none

/-- Whether two values are one id. -/
def same (a b : Value) : Bool :=
  match number? a, number? b with
  | some m, some n => m.same n
  | none, none => a = b
  | _, _ => false

/-- The id that comes after so many others: its number in 32 hexadecimal
    digits. -/
def generated (count : Nat) : Value :=
  let digits := Nat.toDigits 16 count
  .text (String.ofList (List.replicate (32 - digits.length) '0' ++ digits))

end SessionId

/-- A mounted form, under the id it was first mounted under and with the one it
    was last. -/
structure Session where
  key : Value
  id : Value
  engine : Engine

/-- The sessions, what was submitted last in them, and the number of ids that
    were generated. -/
structure Store where
  sessions : List Session := []
  submissions : List (Value × Entries) := []
  generated : Nat := 0

namespace Store

/-- The session of an id. -/
def find? (s : Store) (id : Value) : Option Session :=
  s.sessions.find? fun x => SessionId.same x.key id

/-- What was submitted last under an id. -/
def submission? (s : Store) (id : Value) : Option Entries :=
  (s.submissions.find? fun x => SessionId.same x.1 id).map (·.2)

/-- The session of an id, which has to be there. -/
def find (s : Store) (id : Value) : Except Fault Session :=
  if !SessionId.isKey id then .error .wrongKind
  else
    match s.find? id with
    | some x => .ok x
    | none => .error (if id.hasLongInt then .integerTooLong else .notMounted id)

/-- Forgets what was submitted under an id. -/
def forget (s : Store) (id : Value) : Store :=
  { s with submissions := s.submissions.filter fun x => !SessionId.same x.1 id }

/-- Puts a form in the place of the one mounted under an id, or at the end. -/
def putSession (id : Value) (e : Engine) : List Session → List Session
  | [] => [⟨id, id, e⟩]
  | x :: rest =>
    if SessionId.same x.key id then { x with id, engine := e } :: rest
    else x :: putSession id e rest

/-- Mounts a form under an id, with nothing submitted. -/
def mount (s : Store) (id : Value) (e : Engine) : Store :=
  { s with sessions := putSession id e s.sessions }.forget id

/-- Puts a form in the place of that of a session. -/
def update (s : Store) (x : Session) (e : Engine) : Store :=
  { s with sessions := s.sessions.map fun y =>
      if SessionId.same y.key x.key then { y with engine := e } else y }

/-- Puts data in the place of what was submitted under an id, or at the end. -/
def putSubmission (id : Value) (data : Entries) : List (Value × Entries) → List (Value × Entries)
  | [] => [(id, data)]
  | x :: rest =>
    if SessionId.same x.1 id then (x.1, data) :: rest else x :: putSubmission id data rest

/-- Records data as submitted under an id. -/
def submit (s : Store) (id : Value) (data : Entries) : Store :=
  { s with submissions := putSubmission id data s.submissions }

/-- Drops the session of an id and what was submitted under it. -/
def unmount (s : Store) (id : Value) : Store :=
  { s with sessions := s.sessions.filter fun x => !SessionId.same x.key id }.forget id

end Store
end Formulary
