/-
  Values: what a form holds, what is entered into it and what its rules take
  as arguments.  A record keeps its entries in the order they came in; the
  operations here keep each key at its first place.
-/
import Formulary.Calendar
import Formulary.Entries
import Formulary.Number

namespace Formulary

/-- A value. -/
inductive Value where
  | null
  | bool (b : Bool)
  | number (n : Number)
  | text (s : String)
  | date (d : Date)
  | list (items : List Value)
  | record (entries : List (String × Value))

/-- Named values in order. -/
abbrev Entries := List (String × Value)

namespace Value

/-! ## Equality -/

mutual

/-- Whether two values are the same datum, kind by kind. -/
def beq : Value → Value → Bool
  | .null, .null => true
  | .bool a, .bool b => a == b
  | .number a, .number b => a == b
  | .text a, .text b => a == b
  | .date a, .date b => a == b
  | .list a, .list b => beqItems a b
  | .record a, .record b => beqEntries a b
  | _, _ => false

def beqItems : List Value → List Value → Bool
  | [], [] => true
  | a :: as, b :: bs => beq a b && beqItems as bs
  | _, _ => false

def beqEntries : List (String × Value) → List (String × Value) → Bool
  | [], [] => true
  | (k, a) :: as, (l, b) :: bs => k == l && beq a b && beqEntries as bs
  | _, _ => false

end

mutual

theorem eq_of_beq : ∀ {a b : Value}, beq a b = true → a = b
  | .null, b, h => by cases b <;> simp_all [beq]
  | .bool a, b, h => by cases b <;> simp_all [beq]
  | .number a, b, h => by cases b <;> simp_all [beq]
  | .text a, b, h => by cases b <;> simp_all [beq]
  | .date a, b, h => by cases b <;> simp_all [beq]
  | .list a, b, h => by
    cases b with
    | list b => rw [beq] at h; rw [eq_of_beqItems h]
    | _ => simp [beq] at h
  | .record a, b, h => by
    cases b with
    | record b => rw [beq] at h; rw [eq_of_beqEntries h]
    | _ => simp [beq] at h

theorem eq_of_beqItems : ∀ {a b : List Value}, beqItems a b = true → a = b
  | [], b, h => by cases b <;> simp_all [beqItems]
  | a :: as, b, h => by
    cases b with
    | nil => simp [beqItems] at h
    | cons b bs =>
      rw [beqItems, Bool.and_eq_true] at h
      rw [eq_of_beq h.1, eq_of_beqItems h.2]

theorem eq_of_beqEntries : ∀ {a b : List (String × Value)}, beqEntries a b = true → a = b
  | [], b, h => by cases b <;> simp_all [beqEntries]
  | (k, a) :: as, b, h => by
    cases b with
    | nil => simp [beqEntries] at h
    | cons b bs =>
      obtain ⟨l, b⟩ := b
      rw [beqEntries, Bool.and_eq_true, Bool.and_eq_true] at h
      rw [eq_of_beq h.1.2, eq_of_beqEntries h.2, beq_iff_eq.1 h.1.1]

end

mutual

theorem beq_self : ∀ a : Value, beq a a = true
  | .null => rfl
  | .bool _ | .number _ | .text _ | .date _ => by simp [beq]
  | .list a => by rw [beq, beqItems_self a]
  | .record a => by rw [beq, beqEntries_self a]

theorem beqItems_self : ∀ a : List Value, beqItems a a = true
  | [] => rfl
  | a :: as => by rw [beqItems, beq_self a, beqItems_self as]; rfl

theorem beqEntries_self : ∀ a : List (String × Value), beqEntries a a = true
  | [] => rfl
  | (k, a) :: as => by rw [beqEntries, beq_self a, beqEntries_self as]; simp

end

instance : DecidableEq Value := fun a b =>
  if h : beq a b = true then .isTrue (eq_of_beq h)
  else .isFalse fun e => h (e ▸ beq_self a)

instance : Inhabited Value := ⟨.null⟩

/-! ## Short forms -/

/-- An integer as a value. -/
abbrev int (n : Int) : Value := .number (.whole n)

/-- A double as a value. -/
abbrev real (x : Binary64) : Value := .number (.real x)

/-- A text that may be absent. -/
def ofText? : Option String → Value
  | some s => .text s
  | none => .null

/-- The entry of a record under a key; other values have none. -/
def get? (v : Value) (key : String) : Option Value :=
  match v with
  | .record es => es.lookup key
  | _ => none

/-- Whether a value counts as nothing: absent, false, zero or empty. -/
def isFalsy : Value → Bool
  | .null => true
  | .bool b => !b
  | .number n => n.isZero
  | .text s => s.isEmpty
  | .date _ => false
  | .list items => items.isEmpty
  | .record entries => entries.isEmpty

/-- The word for a value's kind. -/
def kindName : Value → String
  | .null => "NoneType"
  | .bool _ => "bool"
  | .number (.whole _) => "int"
  | .number (.real _) => "float"
  | .text _ => "str"
  | .date _ => "date"
  | .list _ => "list"
  | .record _ => "dict"

/-! ## Nesting -/

mutual

/-- How many lists and records a value has inside one another at most, a value
    that is neither of them counting for `leaf`. -/
def levels (leaf : Nat) : Value → Nat
  | .list vs => levelsItems leaf vs + 1
  | .record es => levelsEntries leaf es + 1
  | _ => leaf

def levelsItems (leaf : Nat) : List Value → Nat
  | [] => 0
  | v :: vs => max (levels leaf v) (levelsItems leaf vs)

def levelsEntries (leaf : Nat) : List (String × Value) → Nat
  | [] => 0
  | (_, v) :: es => max (levels leaf v) (levelsEntries leaf es)

end

/-- How deeply lists and records are nested in a value. -/
abbrev nesting (v : Value) : Nat := v.levels 0

/-- How many values are nested in one another, the innermost one counted. -/
abbrev depth (v : Value) : Nat := v.levels 1

/-- How deeply lists and records may be nested where they are read or written as
    text.  Each of them takes a call, of a thousand that may be in progress; how
    many others are is not modelled, and fifty are left to them. -/
def maxNesting : Nat := 950

theorem levels_list_le {leaf n : Nat} {vs : List Value} :
    (list vs).levels leaf ≤ n + 1 ↔ ∀ v ∈ vs, v.levels leaf ≤ n := by
  rw [levels, Nat.add_le_add_iff_right]
  induction vs with
  | nil => simp [levelsItems]
  | cons v vs ih => rw [levelsItems, Nat.max_le, ih, List.forall_mem_cons]

theorem levels_record_le {leaf n : Nat} {es : Entries} :
    (record es).levels leaf ≤ n + 1 ↔ ∀ p ∈ es, p.2.levels leaf ≤ n := by
  rw [levels, Nat.add_le_add_iff_right]
  induction es with
  | nil => simp [levelsEntries]
  | cons p es ih => rw [levelsEntries, Nat.max_le, ih, List.forall_mem_cons]

theorem levels_of_mem {leaf : Nat} {es : Entries} {p : String × Value} (hp : p ∈ es) :
    p.2.levels leaf ≤ (record es).levels leaf :=
  Nat.le_succ_of_le (levels_record_le.1 (Nat.le_refl (levelsEntries leaf es + 1)) p hp)

mutual

theorem levels_mono {m n : Nat} (h : m ≤ n) : ∀ v : Value, v.levels m ≤ v.levels n
  | .null | .bool _ | .number _ | .text _ | .date _ => h
  | .list vs => Nat.add_le_add_right (levelsItems_mono h vs) 1
  | .record es => Nat.add_le_add_right (levelsEntries_mono h es) 1

theorem levelsItems_mono {m n : Nat} (h : m ≤ n) :
    ∀ vs : List Value, levelsItems m vs ≤ levelsItems n vs
  | [] => Nat.le_refl 0
  | v :: vs => by
    have hv := levels_mono h v
    have hvs := levelsItems_mono h vs
    rw [levelsItems, levelsItems]
    omega

theorem levelsEntries_mono {m n : Nat} (h : m ≤ n) :
    ∀ es : Entries, levelsEntries m es ≤ levelsEntries n es
  | [] => Nat.le_refl 0
  | (_, v) :: es => by
    have hv := levels_mono h v
    have hes := levelsEntries_mono h es
    rw [levelsEntries, levelsEntries]
    omega

end

theorem nesting_le_depth (v : Value) : v.nesting ≤ v.depth := levels_mono (Nat.zero_le 1) v

end Value

end Formulary
