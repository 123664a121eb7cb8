/-
  Forms that are loaded.

  An integer too long to be written is neither read from text nor let through in
  a value, so there is none in a form that is loaded.

  * `Value.IsShort` are the values without such an integer; `Json.short_of_read`
    and `Json.short_of_obstacle` say that those that forms are read from are;
  * `Value.Inherent` are the properties that what is read from text has, and the
    parts of a value with its own;
  * `Read.Yields` is what a reader makes of values with such a property, and each
    way of reading has a lemma on it; `Form.short_of_load`,
    `Form.legible_of_load` and `Form.isDeclared_of_load` are what comes of it for
    the fields of a form;
  * `Form.not_unshowable_initial`: a form that is loaded can be shown with the
    values that it starts from.
-/
import Formulary.Proofs.Control
import Formulary.Proofs.Form.Reading
import Formulary.Proofs.Json.Reading
import Formulary.Proofs.Names
import Formulary.Proofs.Number.Digits
import Formulary.Service

namespace Formulary

/-- Whether no integer in a value is too long to be written. -/
def Value.IsShort (v : Value) : Prop := v.hasLongInt = false

theorem Value.short_null : null.IsShort := rfl

theorem Value.isShort_whole {n : Int} : (int n).IsShort ↔ tooLong n = false := by
  rw [IsShort, hasLongInt]

theorem Value.isShort_list {vs : List Value} : (list vs).IsShort ↔ ∀ v ∈ vs, v.IsShort := by
  unfold IsShort
  rw [hasLongInt]
  induction vs with
  | nil => simp [hasLongIntItems]
  | cons v vs ih => simp [hasLongIntItems, ih]

theorem Value.isShort_record {es : Entries} :
    (record es).IsShort ↔ ∀ p ∈ es, p.2.IsShort := by
  unfold IsShort
  rw [hasLongInt]
  induction es with
  | nil => simp [hasLongIntEntries]
  | cons p es ih => simp [hasLongIntEntries, ih]

theorem Value.short_ofList {es : Entries} (h : (record es).IsShort) :
    (record (Entries.ofList es)).IsShort :=
  isShort_record.2 (Entries.forall_ofList (isShort_record.1 h))

/-! ## Text -/

namespace Json

section
variable {limit : Nat} {start s rest : List Char} {n : Number}

theorem short_of_unsigned (hl : limit ≤ maxIntegerDigits) {negative : Bool}
    (h : unsigned limit start negative s = .ok (n, rest)) : (Value.number n).IsShort := by
  unfold unsigned at h
  extract_lets whole after at h
  have hd : ∀ c ∈ whole, Reading.isDigit c = true := by
    intro c hc
    unfold whole at hc
    split at hc
    · rw [List.mem_singleton.1 hc]
      rfl
    · exact List.all_eq_true.1 List.all_takeWhile c hc
  by_cases hw : whole = []
  · simp [hw] at h
  rw [if_neg hw] at h
  rcases hf : fraction after with ⟨decimals, afterPoint⟩
  rw [hf] at h
  dsimp only at h
  cases he : exponent? afterPoint with
  | some p =>
    rw [he] at h
    cases h
    rfl
  | none =>
    rw [he] at h
    dsimp only at h
    by_cases hdec : decimals = []
    · rw [if_pos hdec] at h
      by_cases hn : limit < whole.length
      · simp [hn] at h
      · rw [if_neg hn, Except.ok.injEq, Prod.mk.injEq] at h
        rw [← h.1]
        refine tooLong_eq_false ?_ (Nat.not_lt.1 hn) hl
        have := Reading.natOfDigits_lt hd
        split <;> simpa using this
    · rw [if_neg hdec] at h
      cases h
      rfl

theorem short_of_number (hl : limit ≤ maxIntegerDigits)
    (h : number limit s = .ok (n, rest)) : (Value.number n).IsShort := by
  unfold number at h
  split at h
  · cases h
    rfl
  · exact short_of_unsigned hl h
  · exact short_of_unsigned hl h

end

theorem inherited_short : Inherited maxIntegerDigits fun _ => Value.IsShort where
  null := rfl
  bool _ := rfl
  text _ := rfl
  nan := rfl
  infinity := rfl
  number := short_of_number (Nat.le_refl _)
  list := Value.isShort_list.2
  record h := Value.short_ofList (Value.isShort_record.2 h)

/-- What is read has no integer too long. -/
theorem short_of_read {s : String} {v : Value} (h : read s = .ok v) : v.IsShort :=
  inherited_short.of_read h

mutual

/-- **What can be written** is a value in which no integer is too long and nothing
    is nested too deeply and, where dates are an obstacle, there is no date. -/
theorem obstacleWithin?_eq_none {dates : Bool} : ∀ {v : Value} {room : Nat},
    obstacleWithin? dates room v = none ↔
      v.IsShort ∧ v.nesting ≤ room ∧ (dates = false → v.IsPlain)
  | .null, _ | .bool _, _ | .text _, _ | .number (.real _), _ => by
    simp [obstacleWithin?, Value.IsShort, Value.hasLongInt, Value.levels, Value.IsPlain]
  | .number (.whole n), _ => by
    simp [obstacleWithin?, Value.isShort_whole, Value.levels, Value.IsPlain]
  | .date _, _ => by
    simp [obstacleWithin?, Value.IsShort, Value.hasLongInt, Value.levels, Value.IsPlain]
  | .list vs, 0 => by simp [obstacleWithin?, Value.levels]
  | .list vs, room + 1 => by
    rw [obstacleWithin?, obstacleItems?_eq_none, Value.isShort_list, Value.levels_list_le,
      Value.isPlain_list]
    exact ⟨fun h => ⟨fun v hv => (h v hv).1, fun v hv => (h v hv).2.1,
        fun hd v hv => (h v hv).2.2 hd⟩,
      fun ⟨hs, hn, hp⟩ v hv => ⟨hs v hv, hn v hv, fun hd => hp hd v hv⟩⟩
  | .record es, 0 => by simp [obstacleWithin?, Value.levels]
  | .record es, room + 1 => by
    rw [obstacleWithin?, obstacleEntries?_eq_none, Value.isShort_record, Value.levels_record_le,
      Value.isPlain_record]
    exact ⟨fun h => ⟨fun p hp => (h p hp).1, fun p hp => (h p hp).2.1,
        fun hd p hp => (h p hp).2.2 hd⟩,
      fun ⟨hs, hn, hpl⟩ p hp => ⟨hs p hp, hn p hp, fun hd => hpl hd p hp⟩⟩

theorem obstacleItems?_eq_none {dates : Bool} {room : Nat} : ∀ {vs : List Value},
    obstacleItems? dates room vs = none ↔
      ∀ v ∈ vs, v.IsShort ∧ v.nesting ≤ room ∧ (dates = false → v.IsPlain)
  | [] => by simp [obstacleItems?]
  | v :: vs => by
    rw [obstacleItems?, Option.or_eq_none_iff, obstacleWithin?_eq_none, obstacleItems?_eq_none,
      List.forall_mem_cons]

theorem obstacleEntries?_eq_none {dates : Bool} {room : Nat} : ∀ {es : Entries},
    obstacleEntries? dates room es = none ↔
      ∀ p ∈ es, p.2.IsShort ∧ p.2.nesting ≤ room ∧ (dates = false → p.2.IsPlain)
  | [] => by simp [obstacleEntries?]
  | (_, v) :: es => by
    rw [obstacleEntries?, Option.or_eq_none_iff, obstacleWithin?_eq_none,
      obstacleEntries?_eq_none, List.forall_mem_cons]

end

theorem obstacle?_eq_none {dates : Bool} {v : Value} : obstacle? dates v = none ↔
    v.IsShort ∧ v.nesting ≤ Value.maxNesting ∧ (dates = false → v.IsPlain) :=
  obstacleWithin?_eq_none

theorem short_of_obstacle {dates : Bool} {v : Value} (h : obstacle? dates v = none) : v.IsShort :=
  (obstacle?_eq_none.1 h).1

end Json

theorem Value.writable_eq_ok {v w : Value} :
    v.writable = .ok w ↔ Json.obstacle? false v = none ∧ v = w := by
  unfold writable
  split <;> simp [*]

/-! ## Reading -/

/-- Whether a property of values is one of what is read from text, and of the parts
    of a value that has it. -/
structure Value.Inherent (Q : Value → Prop) : Prop where
  read {s : String} {v : Value} : Json.read s = .ok v → Q v
  list {vs : List Value} : Q (.list vs) → ∀ v ∈ vs, Q v
  record {es : Entries} : Q (.record es) → ∀ p ∈ es, Q p.2

theorem Value.inherent_short : Inherent IsShort :=
  ⟨Json.short_of_read, isShort_list.1, isShort_record.1⟩

theorem Value.inherent_any : Inherent fun _ => True :=
  ⟨fun _ => trivial, fun _ _ _ => trivial, fun _ _ _ => trivial⟩

namespace Read
variable {α : Type}

/-- Whether what is read of values with a property has another. -/
def Yields (Q : Value → Prop) (read : Value → Read α) (P : α → Prop) : Prop :=
  ∀ v a, Q v → read v = .ok a → P a

section
variable {Q : Value → Prop} {read : Value → Read α} {P : α → Prop}

theorem Yields.need (hr : Yields Q read P) {es : Entries} (hes : ∀ p ∈ es, Q p.2)
    {keys : List String} {a : α} (h : need es keys read = .ok a) : P a := by
  obtain ⟨p, hp, ha⟩ := need_eq_ok.1 h
  exact hr p.2 a (hes p (mem_of_entry hp)) ha

theorem Yields.allow (hr : Yields Q read P) {es : Entries} (hes : ∀ p ∈ es, Q p.2)
    {keys : List String} {absent a : α} (ha : P absent)
    (h : allow es keys read absent = .ok a) : P a := by
  rcases allow_eq_ok.1 h with ⟨p, hp, ha⟩ | ⟨-, rfl⟩
  · exact hr p.2 a (hes p (mem_of_entry hp)) ha
  · exact ha

theorem Yields.list (hr : Yields Q read P) (hQ : Value.Inherent Q) :
    Yields Q (list read) fun as => ∀ a ∈ as, P a := by
  intro v as hv h a ha
  obtain ⟨vs, rfl, hvs⟩ := list_eq_ok.1 h
  obtain ⟨w, hw, hwa⟩ := forall₂_mem_left hvs.flip a ha
  exact hr w a (hQ.list hv w hw) hwa

theorem Yields.list? (hr : Yields Q read P) (hQ : Value.Inherent Q) :
    Yields Q (list? read) fun as? => ∀ a ∈ as?.getD [], P a := by
  intro v as? hv h
  rcases list?_eq_ok.1 h with ⟨-, rfl⟩ | ⟨as, has, rfl⟩
  · simp
  · exact hr.list hQ v as hv has

theorem yields_value : Yields Q .ok Q := by
  intro v a hv h
  cases h
  exact hv

end

end Read

/-! ## Forms -/

/-- Whether a field has a declared type, and no integer too long in its choices
    and in the value it starts from. -/
structure Field.Short (f : Field) : Prop where
  type : f.type.known?.isSome = true
  choices : ∀ c ∈ f.choices.getD [], c.value.toValue.IsShort
  default : f.default.IsShort

theorem Field.Short.initialValue {f : Field} (h : f.Short) : f.initialValue.IsShort := by
  unfold Field.initialValue emptyValue
  split
  · split <;> rfl
  · exact h.default

instance (v : Value) : Decidable v.IsShort := inferInstanceAs (Decidable (_ = _))

instance (f : Field) : Decidable f.Short :=
  decidable_of_iff (f.type.known?.isSome = true ∧
    (∀ c ∈ f.choices.getD [], c.value.toValue.IsShort) ∧ f.default.IsShort)
    ⟨fun ⟨ht, hc, hd⟩ => ⟨ht, hc, hd⟩, fun h => ⟨h.type, h.choices, h.default⟩⟩

theorem ChoiceValue.yields_read : Read.Yields Value.IsShort read fun c => c.toValue.IsShort := by
  intro v c hv h
  cases v with
  | text s => cases h; rfl
  | number n =>
    cases h
    unfold ChoiceValue.toValue
    exact hv
  | bool b =>
    cases h
    unfold ChoiceValue.toValue
    refine Value.isShort_whole.2 (tooLong_eq_false (k := 1) ?_ (by decide) (Nat.le_refl _))
    cases b <;> decide
  | _ => cases h

theorem Choice.yields_read :
    Read.Yields Value.IsShort read fun c => c.value.toValue.IsShort := by
  intro v c hv h
  obtain ⟨es, rfl, hes⟩ := read_eq_ok.1 h
  exact ChoiceValue.yields_read.need (Value.isShort_record.1 hv) hes.value

theorem Field.yields_read : Read.Yields Value.IsShort read Short := by
  intro v f hv h
  obtain ⟨es, rfl, hes⟩ := read_eq_ok.1 h
  have hv := Value.isShort_record.1 hv
  refine ⟨?type, ?choices, ?default⟩
  case type =>
    obtain ⟨t, ht⟩ := hes.declared
    rw [ht]
    rfl
  case choices =>
    exact (Choice.yields_read.list? Value.inherent_short).allow hv (by simp) hes.choices
  case default => exact Read.yields_value.allow hv Value.short_null hes.default

theorem Rule.yields_read {Q : Value → Prop} (hQ : Value.Inherent Q) (hn : Q .null) :
    Read.Yields Q read fun r => Q r.argument := by
  intro v r hv h
  obtain ⟨es, rfl, hes⟩ := read_eq_ok.1 h
  exact Read.yields_value.allow (hQ.record hv) hn hes.argument

/-- Whether a field has a declared type, and no integer too long in the arguments
    of its rules. -/
structure Field.Legible (f : Field) : Prop where
  type : ∃ t, f.type = .declared t
  arguments : ∀ r ∈ f.rules, r.argument.IsShort

instance (tag : TypeTag) : Decidable (∃ t, tag = .declared t) :=
  match tag with
  | .declared t => .isTrue ⟨t, rfl⟩
  | .bare _ => .isFalse (by simp)

instance (f : Field) : Decidable f.Legible :=
  decidable_of_iff ((∃ t, f.type = .declared t) ∧ ∀ r ∈ f.rules, r.argument.IsShort)
    ⟨fun ⟨ht, ha⟩ => ⟨ht, ha⟩, fun h => ⟨h.type, h.arguments⟩⟩

theorem Field.yields_legible : Read.Yields Value.IsShort read Legible := by
  intro v f hv h
  obtain ⟨es, rfl, hes⟩ := read_eq_ok.1 h
  have hr := (Rule.yields_read Value.inherent_short Value.short_null).list Value.inherent_short
  exact ⟨hes.declared, hr.allow (Value.isShort_record.1 hv) (by simp) hes.rules⟩

theorem Field.yields_declared :
    Read.Yields (fun _ => True) read fun f => ∃ t, f.type = .declared t := by
  intro v f _ h
  obtain ⟨es, -, h⟩ := read_eq_ok.1 h
  exact h.declared

namespace Form
variable {form : Form} {v : Value} {Q : Value → Prop} {P : Field → Prop}

theorem fields_of_value (hQ : Value.Inherent Q) (hP : Read.Yields Q Field.read P) (hv : Q v)
    (h : ofValue v = .ok form) : ∀ f ∈ form.fields, P f := by
  obtain ⟨es, he, h⟩ := ofValue_eq_ok.1 h
  have hes : ∀ p ∈ es, Q p.2 := by
    cases v with
    | record es' =>
      cases he
      exact hQ.record hv
    | list vs =>
      cases he
      simpa using hv
    | _ => cases he
  exact (hP.list hQ).need hes h.fields

theorem fields_of_text (hQ : Value.Inherent Q) (hP : Read.Yields Q Field.read P)
    (hs : ∀ p ∈ Sample.all, ∀ f ∈ p.2.fields, P f) {s : String} (h : ofText s = .ok form) :
    ∀ f ∈ form.fields, P f := by
  unfold ofText at h
  split at h
  · rename_i form' hl
    cases h
    exact hs _ (Entries.mem_of_lookup hl)
  · obtain ⟨w, hw, h⟩ := bind_eq_ok.1 h
    exact fields_of_value hQ hP (hQ.read (mapError_eq_ok.1 hw)) h

/-- **The fields of a form that is loaded** are what fields are read as. -/
theorem fields_of_load (hQ : Value.Inherent Q) (hP : Read.Yields Q Field.read P)
    (hs : ∀ p ∈ Sample.all, ∀ f ∈ p.2.fields, P f) (hv : Q v) (h : load v = .ok form) :
    ∀ f ∈ form.fields, P f := by
  unfold load at h
  split at h
  · exact fields_of_text hQ hP hs h
  · exact fields_of_value hQ hP hv h

theorem short_of_load (hv : v.IsShort) (h : load v = .ok form) : ∀ f ∈ form.fields, f.Short :=
  fields_of_load Value.inherent_short Field.yields_read (by decide +kernel) hv h

theorem legible_of_load (hv : v.IsShort) (h : load v = .ok form) :
    ∀ f ∈ form.fields, f.Legible :=
  fields_of_load Value.inherent_short Field.yields_legible (by decide +kernel) hv h

theorem legible_of_text {s : String} (h : ofText s = .ok form) : ∀ f ∈ form.fields, f.Legible :=
  legible_of_load (v := .text s) rfl h

/-- The fields of a form that is loaded have declared types. -/
theorem isDeclared_of_load (h : load v = .ok form) : form.IsDeclared :=
  fields_of_load Value.inherent_any Field.yields_declared (by decide +kernel) trivial h

end Form

/-! ## Forms of texts -/

/-- No name of a sample begins like JSON. -/
theorem Sample.not_json : ∀ name ∈ Entries.keys Sample.all,
    ((Json.read name).map fun _ => ()).mapError (·.problem) = .error .expectedValue := by
  decide +kernel

/-- The form of a text that begins like JSON is that of the value read. -/
theorem Form.ofText_eq {s : String}
    (h : ∀ place, Json.read s ≠ .error ⟨.expectedValue, place⟩) :
    ofText s = Value.ofJson s >>= ofValue := by
  have hs : Sample.all.lookup s = none := by
    by_contra hne
    have hm := Entries.isSome_lookup.1 (Option.isSome_iff_ne_none.2 hne)
    obtain ⟨⟨problem, place⟩, he, hp⟩ := mapError_eq_error.1 (Sample.not_json s hm)
    obtain rfl : problem = .expectedValue := hp
    exact h place (map_eq_error.1 he)
  rw [ofText, hs]

/-- The form of a JSON text is that of its value. -/
theorem Form.load_text {s : String} {v : Value} (h : Json.read s = .ok v) :
    load (.text s) = ofValue v := by
  rw [load, ofText_eq (by simp [h]), Value.ofJson, h]
  rfl

/-! ## Forms that are not loaded -/

/-- What becomes of a text that is not read: it is nested too deeply, holds half of
    a pair of surrogates, or is no JSON. -/
theorem Fault.ofFailure_cases (e : Json.Failure) :
    (e.problem = .nestedTooDeep ∧ ofFailure e = .nestedTooDeep) ∨
      (e.problem = .loneSurrogate ∧ ofFailure e = .loneSurrogate) ∨ ofFailure e = .unreadable e := by
  unfold ofFailure
  split
  · exact .inl ⟨‹_›, rfl⟩
  · exact .inr (.inl ⟨‹_›, rfl⟩)
  · exact .inr (.inr rfl)

theorem Value.ofJson_only (s : String) :
    FaultsOnly (fun f => ∃ e, Json.read s = .error e ∧ f = .ofFailure e) (ofJson s) := by
  intro f h
  obtain ⟨e, he, rfl⟩ := mapError_eq_error.1 h
  exact ⟨e, he, rfl⟩

namespace Form

theorem ofValue_only (v : Value) : FaultsOnly (fun f => ∃ rs, f = .refused rs) (ofValue v) := by
  have finished (r : Read Form) :
      FaultsOnly (fun f => ∃ rs, f = .refused rs) (r.finish model) := by
    cases r with
    | ok form => exact .ok form
    | refused rs => exact .error ⟨_, rfl⟩
  unfold ofValue
  split <;> exact finished _

/-- A text is no form because it is not read or is refused. -/
theorem ofText_only (s : String) : FaultsOnly (fun f =>
    (∃ e, Json.read s = .error e ∧ f = .ofFailure e) ∨ ∃ rs, f = .refused rs) (ofText s) := by
  unfold ofText
  split
  · exact .ok _
  · exact ((Value.ofJson_only s).mono fun _ => .inl).bind fun v _ =>
      (ofValue_only v).mono fun _ => .inr

theorem load_only (v : Value) : FaultsOnly (fun f =>
    (∃ s e, v = .text s ∧ Json.read s = .error e ∧ f = .ofFailure e) ∨ ∃ rs, f = .refused rs)
      (load v) := by
  unfold load
  split
  · rename_i s
    exact (ofText_only s).mono fun f => .imp_left fun ⟨e, he, hf⟩ => ⟨s, e, rfl, he, hf⟩
  · exact (ofValue_only v).mono fun _ => .inr

/-- A text is no data because it is not read or is no object. -/
theorem data_only (s : String) : FaultsOnly (fun f =>
    (∃ e, Json.read s = .error e ∧ f = .ofFailure e) ∨ ∃ kind, f = .notARecord kind)
      (data s) := by
  have hread : FaultsOnly (fun f => ∃ e, Json.read s = .error e ∧ f = .ofFailure e)
      (Value.ofJson (if s.isEmpty then "\x7b\x7d" else s)) := by
    split
    · have hempty : (Json.read "\x7b\x7d").isOk = true := by decide
      rintro f h
      obtain ⟨e, he, -⟩ := Value.ofJson_only _ f h
      rw [he] at hempty
      cases hempty
    · exact Value.ofJson_only s
  refine (hread.mono fun _ => .inl).bind fun v _ => ?_
  cases v with
  | record es => exact .ok es
  | _ => exact .error (.inr ⟨_, rfl⟩)

end Form

/-! ## Forms that are shown -/

theorem State.short_initial {fields : List Field} (h : ∀ f ∈ fields, f.Short) (name : String) :
    (Schema.valueOf (initial fields).values name).IsShort := by
  have hs : ∀ p ∈ (initial fields).values, p.2.IsShort :=
    Entries.forall_ofList (List.forall_mem_map.2 fun f hf => (h f hf).initialValue)
  unfold Schema.valueOf
  cases hl : (initial fields).values.lookup name with
  | none => rfl
  | some v => exact hs _ (Entries.mem_of_lookup hl)

/-- A form that is loaded can be shown with values without integers too long. -/
theorem Form.not_unshowable {form : Form} (hs : ∀ f ∈ form.fields, f.Short) {values : Entries}
    (hv : ∀ f ∈ form.fields, (Schema.valueOf values f.name).IsShort) :
    ¬ form.Unshowable values := by
  rintro ⟨f, hf, hu⟩
  have hf := mem_of_mem_ownFields hf
  obtain ⟨t, ht⟩ := Option.isSome_iff_exists.1 (hs f hf).type
  unfold Field.Unshowable at hu
  rw [ht] at hu
  obtain ⟨-, hl | ⟨c, hc, hl⟩⟩ := hu
  · exact absurd hl (Bool.eq_false_iff.1 (hv f hf))
  · exact absurd hl (Bool.eq_false_iff.1 ((hs f hf).choices c hc))

/-- **A form that is loaded can be shown** with the values that it starts from. -/
theorem Form.not_unshowable_initial {form : Form} {v : Value} (hv : v.IsShort)
    (h : load v = .ok form) : ¬ form.Unshowable (State.initial form.fields).values :=
  have hs := short_of_load hv h
  not_unshowable hs fun f _ => State.short_initial hs f.name

end Formulary
