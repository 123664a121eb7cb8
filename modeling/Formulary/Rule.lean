/-
  Rules at work: which input types a rule applies to, and what it demands of a
  value.

  * `RuleKind.appliesTo` is the table of kinds and input types;
  * `Rule.demand?` is what a rule demands, if its argument is usable;
  * `Demand.holds` tells whether a value meets a demand;
  * `Rule.check?` is the check that a rule becomes on a field of some type:
    none of one that says only whether a value has to be given, that does not
    apply to the type, or whose argument is unusable.
-/
import Formulary.Address
import Formulary.Domain
import Formulary.Pattern.Matcher
import Formulary.Pattern.Reader

namespace Formulary

/-! ## Rules and types -/

/-- Whether a rule of a kind takes effect on a field of an input type. -/
def RuleKind.affects : RuleKind → FieldType → Bool
  | .required, _ => true
  | .optional, _ => false
  | .email, t => t = .email || t = .text
  | .min, t | .max, t => t = .number
  | .minLength, t | .maxLength, t | .pattern, t => t.isTextEntry

/-- Whether a rule of a kind takes effect on a field with a tag.  That a value
    has to be given is asked of any field. -/
def RuleKind.appliesTo (k : RuleKind) (t : TypeTag) : Bool :=
  k = .required || t.known?.any k.affects

/-! ## Arguments -/

/-- The bound that an argument of `min` or `max` stands for. -/
def Value.bound? : Value → Option Number
  | .number n => some n
  | .text s => Number.ofText? s
  | _ => none

/-- The greatest whole number that a double is taken as. -/
def maxLengthOfReal : Nat := 0x7FFFFFFFFFFFFFFF

/-- The length that an argument of `minLength` or `maxLength` stands for. -/
def Value.length? : Value → Option Nat
  | .number (.whole n) => n.toNat?
  | .number (.real x) =>
    match x.toInt? with
    | some n => if n.natAbs ≤ maxLengthOfReal then n.toNat? else none
    | none => none
  | .text s => (Reading.int? s.toList).bind Int.toNat?
  | _ => none

/-! ## Demands -/

/-- What is demanded of a value. -/
inductive Demand where
  /-- It is an address of electronic mail. -/
  | email
  | atLeast (bound : Number)
  | atMost (bound : Number)
  | minLength (n : Nat)
  | maxLength (n : Nat)
  /-- A pattern matches somewhere in it. -/
  | pattern (p : Pattern.Compiled)

/-- A value as a number to compare; true and false count as one and zero. -/
def Value.comparable? : Value → Option Number
  | .number n => some n
  | .bool b => some (.whole (if b then 1 else 0))
  | _ => none

/-- The number of characters, items or entries of a value. -/
def Value.size? : Value → Option Nat
  | .text s => some s.length
  | .list items => some items.length
  | .record entries => some entries.length
  | _ => none

namespace Demand

/-- A test of what a value has, which is a fault if it has none. -/
def ask {α : Type} (part? : Option α) (test : α → Bool) : Except Fault Bool :=
  match part? with
  | some a => .ok (test a)
  | none => .error .wrongKind

/-- Whether a value meets a demand. -/
def holds (d : Demand) (v : Value) : Except Fault Bool :=
  match d with
  | .email =>
    match v with
    | .text s => .ok (Address.isValid s)
    | _ => .error .noSuchPart
  | .atLeast bound => ask v.comparable? fun n => bound.le n
  | .atMost bound => ask v.comparable? fun n => n.le bound
  | .minLength least => ask v.size? fun n => least ≤ n
  | .maxLength most => ask v.size? fun n => n ≤ most
  | .pattern p =>
    match v with
    | .text s => .ok (p.search s)
    | _ => .error .wrongKind

end Demand

namespace Rule

/-- The pattern of a text, if it is well formed. -/
def pattern? (s : String) : Except Fault (Option Pattern.Compiled) :=
  match Pattern.read s with
  | .ok p => .ok (some p)
  | .error .malformed => .ok none
  | .error .numberTooLarge => .error .numberTooLarge
  | .error (.countTooLong digits) => .error (.numeralTooLong digits)
  | .error .flagsContradict => .error .flagsContradict

/-- What a rule demands, if it demands anything and its argument is usable. -/
def demand? (r : Rule) : Except Fault (Option Demand) :=
  match r.kind with
  | .required | .optional => .ok none
  | .email => .ok (some .email)
  | .min => .ok (r.argument.bound?.map .atLeast)
  | .max => .ok (r.argument.bound?.map .atMost)
  | .minLength => .ok (r.argument.length?.map .minLength)
  | .maxLength => .ok (r.argument.length?.map .maxLength)
  | .pattern =>
    match r.argument with
    | .text s => (pattern? s).map (·.map .pattern)
    | _ => .ok none

/-- Whether the argument of a rule is usable. -/
def isUsable (r : Rule) : Except Fault Bool :=
  if r.kind.isPresence then .ok true else r.demand?.map (·.isSome)

end Rule

/-! ## Checks -/

/-- A demand with the kind and the message of the rule that makes it. -/
structure Check where
  kind : RuleKind
  message : String
  demand : Demand

/-- Whether a value passes a check. -/
def Check.passes (c : Check) (v : Value) : Except Fault Bool := c.demand.holds v

/-- The check that a rule becomes on a field with a tag. -/
def Rule.check? (r : Rule) (t : TypeTag) : Except Fault (Option Check) :=
  if r.kind.isPresence then .ok none
  else if !t.isKey then .error .wrongKind
  else if !r.kind.appliesTo t then
    if t.toValue.hasLongInt then .error .integerTooLong else .ok none
  else
    match r.demand? with
    | .error e => .error e
    | .ok (some d) => .ok (some ⟨r.kind, r.message, d⟩)
    | .ok none => if r.argument.hasLongInt then .error .integerTooLong else .ok none

end Formulary
