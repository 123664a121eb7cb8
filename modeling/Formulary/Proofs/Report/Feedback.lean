/-
  Feeding a report back: the data that it hands on, validated once more.

  * `Field.validate_asJson`: what a field takes, as it stands in JSON, it takes
    again, unless it is an infinite number;
  * `Report.approves_iff`: what a report approves of is what the data is taken as,
    as it stands in JSON;
  * `Report.feeds_back_iff`: a report feeds back unless there is nothing under a
    name, and that is what becomes of infinite numbers.
-/
import Formulary.Proofs.Calendar
import Formulary.Proofs.Report.Answer

namespace Formulary

/-! ## Values as they stand in JSON -/

/-- Whether a value is an infinite number. -/
def Value.IsInfinite (v : Value) : Prop := ∃ negative, v = .real (.infinite negative)

namespace Value

theorem asJson_eq_null {v : Value} :
    v.asJson true = .null ↔ v = .null ∨ v.IsInfinite ∨ v = .real .nan := by
  cases v with
  | number n =>
    cases n with
    | whole n => simp [asJson, IsInfinite]
    | real x => cases x <;> simp [asJson, IsInfinite]
  | _ => simp [asJson, IsInfinite]

mutual

/-- What stands in JSON already stays as it is. -/
theorem asJson_asJson (finite : Bool) : ∀ v : Value, (v.asJson true).asJson finite = v.asJson true
  | .null | .bool _ | .text _ | .date _ | .number (.whole _) | .number (.real (.finite ..))
  | .number (.real (.infinite _)) | .number (.real .nan) => rfl
  | .list vs => congrArg Value.list (asJsonItems_asJsonItems finite vs)
  | .record es => congrArg Value.record (asJsonEntries_asJsonEntries finite es)

theorem asJsonItems_asJsonItems (finite : Bool) :
    ∀ vs : List Value, asJsonItems finite (asJsonItems true vs) = asJsonItems true vs
  | [] => rfl
  | v :: vs => by
    rw [asJsonItems, asJsonItems, asJson_asJson finite v, asJsonItems_asJsonItems finite vs]

theorem asJsonEntries_asJsonEntries (finite : Bool) :
    ∀ es : Entries, asJsonEntries finite (asJsonEntries true es) = asJsonEntries true es
  | [] => rfl
  | (key, v) :: es => by
    rw [asJsonEntries, asJsonEntries, asJson_asJson finite v,
      asJsonEntries_asJsonEntries finite es]

end

theorem lookup_asJsonEntries (finite : Bool) (es : Entries) (name : String) :
    (asJsonEntries finite es).lookup name = (es.lookup name).map (asJson finite) := by
  induction es with
  | nil => rfl
  | cons e es ih =>
    obtain ⟨key, v⟩ := e
    rw [asJsonEntries, List.lookup_cons, List.lookup_cons, ih]
    split <;> rfl

end Value

theorem Schema.valueOf_asJsonEntries (es : Entries) (name : String) :
    valueOf (Value.asJsonEntries true es) name = (valueOf es name).asJson true := by
  rw [valueOf, valueOf, Value.lookup_asJsonEntries]
  cases es.lookup name <;> rfl

/-! ## Fields -/

theorem Date.write_ne_empty (d : Date) : d.write ≠ "" := by
  intro h
  have hd := d.ofText?_write
  rw [h] at hd
  have hn : ofText? "" = none := by decide
  rw [hn] at hd
  cases hd

/-- A value of a domain, as it stands in JSON, is given and taken as the value. -/
theorem Domain.coerce_asJson {d : Domain} {v : Value} (hd : d ≠ .mixed) (hv : d.Has v)
    (hb : v.isBlank = false) (hi : ¬v.IsInfinite) :
    (v.asJson true).isBlank = false ∧ d.coerce (v.asJson true) = .ok v := by
  cases d with
  | string | boolean =>
    obtain ⟨x, rfl⟩ := hv
    exact ⟨hb, rfl⟩
  | number =>
    have hn := hv
    obtain ⟨n, rfl, hnan⟩ := hv
    have same : (Value.number n).asJson true = .number n := by
      cases n with
      | whole n => rfl
      | real x =>
        cases x with
        | finite s e f => rfl
        | infinite s => exact absurd ⟨s, rfl⟩ hi
        | nan => cases hnan
    rw [same]
    exact ⟨hb, coerce_of_has hn⟩
  | date =>
    obtain ⟨x, rfl⟩ := hv
    refine ⟨by simp [Value.asJson, Value.isBlank, x.write_ne_empty], ?_⟩
    rw [Value.asJson, coerce, toDate, x.ofText?_write]
    rfl
  | mixed => exact absurd rfl hd

namespace Field
variable {f : Field} {t : FieldType} {w : Validator} {raw v : Value}

/-- **What a field takes it takes again as it stands in JSON**, unless it is an
    infinite number. -/
theorem validate_asJson (hf : f.compile = .ok w) (ht : f.type = .declared t)
    (h : w.validate raw = .ok (.accepted v)) (hi : ¬v.IsInfinite) :
    w.validate (v.asJson true) = .ok (.accepted v) := by
  rw [validate_accepted hf] at h ⊢
  rcases h with ⟨-, rfl, hr⟩ | ⟨hb, hc, ho⟩
  · exact .inl ⟨rfl, rfl, hr⟩
  · have hd : Domain.ofTag f.type ≠ .mixed := ht ▸ Domain.ofTag_ne_mixed
    obtain ⟨hb', hc'⟩ :=
      Domain.coerce_asJson hd (Domain.coerce_has hc) (Domain.coerce_given hb hc) hi
    exact .inr ⟨hb', hc', ho⟩

/-- What a field takes that is nothing in JSON is nothing, or an infinite number. -/
theorem infinite_of_accepted (hf : f.compile = .ok w) (ht : f.type = .declared t)
    (h : w.validate raw = .ok (.accepted v)) (hn : v ≠ .null) (hj : v.asJson true = .null) :
    v.IsInfinite := by
  rcases (validate_accepted hf).1 h with ⟨-, rfl, -⟩ | ⟨-, hc, -⟩
  · exact absurd rfl hn
  rcases Value.asJson_eq_null.1 hj with rfl | hi | rfl
  · exact absurd rfl hn
  · exact hi
  · -- what is no number is not taken as one
    have hv := Domain.coerce_has hc
    rw [ht] at hv
    cases t <;> simp [Domain.ofTag, TypeTag.known?, Domain.ofType, Domain.Has, Number.isNaN,
      Binary64.isNaN] at hv

end Field

/-! ## Schemas -/

namespace Schema
variable {fields : List Field} {strict : Bool} {s : Schema} {values taken : Entries} {r : Result}
variable {name : String} {v : Value}

section
variable (hc : compile strict fields = .ok s) (h : s.validate values = .ok r)
  (hd : r.data = some taken)
include hc h hd

/-- Data without infinite numbers validates to itself as it stands in JSON. -/
theorem validate_asJson (ht : ∀ f ∈ fields, ∃ t, f.type = .declared t)
    (hi : ∀ name v, taken.lookup name = some v → ¬v.IsInfinite) :
    s.validate (Value.asJsonEntries true taken) = .ok r := by
  obtain ⟨o, ho, rfl⟩ := validate_eq_ok.1 h
  have hm := madeUp_summary (ofFields_of_compile hc) ho
  refine validate_eq_ok.2 ⟨o, fun n hn => ?_, rfl⟩
  obtain ⟨f, hf, w, hfw, hs⟩ := exists_field hc hn
  obtain ⟨t, ht⟩ := ht f hf
  have ha := ho n hn
  rw [hs, hm.accepted hd hn] at ha
  rw [hs, hm.accepted hd hn, valueOf_asJsonEntries, hm.valueOf_data hd hn]
  refine f.validate_asJson hfw ht ha ?_
  rintro ⟨negative, hv⟩
  have hmem : (n, (o n).value) ∈ taken := (hm.mem_data hd).2 ⟨hn, rfl, by simp [hv]⟩
  exact hi n _ ((Entries.lookup_eq_some_iff (hm.keys_data hd)).2 hmem) ⟨negative, hv⟩

/-- Of nothing there is nothing in the data. -/
theorem not_mem_keys_taken (hv : valueOf values name = .null) : name ∉ Entries.keys taken := by
  intro hn
  obtain ⟨v, hl⟩ := Option.isSome_iff_exists.1 (Entries.isSome_lookup.2 hn)
  obtain ⟨hnull, f, -, w, hfw, ha⟩ := taken_of_mem hc h hd (Entries.mem_of_lookup hl)
  rw [hv] at ha
  rcases (Field.validate_accepted hfw).1 ha with ⟨-, rfl, -⟩ | ⟨hb, -⟩
  · exact hnull rfl
  · cases hb

end
end Schema

/-! ## Reports -/

namespace Report

/-- Whether the report on the text of a form and that of its data says that the
    data is valid and is taken as an object. -/
def Approves (settings : Settings) (form data : String) (object : Value) : Prop :=
  ∃ report v, validate settings form data = .ok report ∧ Json.read report = .ok v ∧
    v.get? "is_valid" = some (.bool true) ∧ v.get? "validated_data" = some object

/-- Whether the text of a form and that of its data can be read, and the data is
    valid and taken as entries. -/
def Takes (settings : Settings) (form data : String) (taken : Entries) : Prop :=
  ∃ f values s r, Form.ofText form = .ok f ∧ Form.data data = .ok values ∧
    Schema.compile settings.strict f.fields = .ok s ∧ s.validate values = .ok r ∧
    r.data = some taken

section
variable {settings : Settings} {form data text : String} {object : Value} {taken : Entries}

/-- **What is approved of is what the data is taken as**, as it stands in JSON. -/
theorem approves_iff : Approves settings form data object ↔
    ∃ taken, Takes settings form data taken ∧ object = .record (Value.asJsonEntries true taken) := by
  constructor
  · rintro ⟨report, v, h, hread, hvalid, hobject⟩
    obtain ⟨w, hw, htext⟩ := bind_eq_ok.1 h
    have hs := says_of_validation hw
    obtain rfl := Except.ok.inj ((hs.read_write htext).symm.trans hread)
    cases hs with
    | @result f values s r hf hd hc hr =>
      have hv : r.isValid = true := Value.bool.inj (Option.some.inj hvalid)
      obtain ⟨o, ho, rfl⟩ := Schema.validate_eq_ok.1 hr
      have hm := Schema.madeUp_summary (Schema.ofFields_of_compile hc) ho
      obtain ⟨taken, htaken⟩ := Option.isSome_iff_exists.1 (hm.present.2 (hm.valid.1 hv))
      refine ⟨taken, ⟨f, values, s, _, hf, hd, hc, hr, htaken⟩, ?_⟩
      have ho := Option.some.inj hobject
      rw [htaken] at ho
      exact ho.symm
    | _ => cases Value.bool.inj (Option.some.inj hvalid)
  · rintro ⟨taken, ⟨f, values, s, r, hf, hd, hc, hr, htaken⟩, rfl⟩
    have hw : validation settings (Form.ofText form) (Form.data data) = .ok (.result r) := by
      rw [hf, hd]
      exact bind_eq_ok.2 ⟨s, hc, bind_eq_ok.2 ⟨r, hr, rfl⟩⟩
    have shallow := Schema.shallow_iff hc hr fun x hx => (Form.legible_of_text hf x hx).type
    obtain ⟨o, ho, rfl⟩ := Schema.validate_eq_ok.1 hr
    have hm := Schema.madeUp_summary (Schema.ofFields_of_compile hc) ho
    have hnone := hm.present.1 (by rw [htaken]; rfl)
    have hv := hm.valid.2 hnone
    -- nothing is refused, so nothing is too deep
    have htext : Result.write _ = .ok _ :=
      Json.writeGuarded_eq_ok.2 ⟨shallow.2 (by rw [hnone]; exact List.forall_mem_nil _), rfl⟩
    refine ⟨_, _, bind_eq_ok.2 ⟨_, hw, htext⟩, (says_of_validation hw).read_write htext, ?_, ?_⟩
    · exact congrArg (fun b => some (Value.bool b)) hv
    · exact congrArg (fun o : Option Entries => some ((o.elim .null .record : Value).asJson true)) htaken

theorem data_of_read {es : Entries} (h : Json.read text = .ok (.record es)) :
    Form.data text = .ok es := by
  have hne : text ≠ "" := by
    rintro rfl
    have hn : (Json.read "").toOption = none := by decide
    rw [h] at hn
    cases hn
  rw [Form.data, if_neg (by simpa using hne), Value.ofJson, h]
  rfl

theorem takes_of_run {r : Result} (h : (do
      let f ← Form.ofText form
      let values ← Form.data data
      let s ← Schema.compile settings.strict f.fields
      s.validate values) = .ok r) (ht : r.data = some taken) : Takes settings form data taken := by
  obtain ⟨f, hf, h⟩ := bind_eq_ok.1 h
  obtain ⟨values, hd, h⟩ := bind_eq_ok.1 h
  obtain ⟨s, hs, h⟩ := bind_eq_ok.1 h
  exact ⟨f, values, s, r, hf, hd, hs, h, ht⟩

theorem Takes.unique {taken' : Entries} (h : Takes settings form data taken)
    (h' : Takes settings form data taken') : taken' = taken := by
  obtain ⟨f, values, s, r, hf, hd, hc, hr, ht⟩ := h
  obtain ⟨f', values', s', r', hf', hd', hc', hr', ht'⟩ := h'
  obtain rfl := Except.ok.inj (hf.symm.trans hf')
  obtain rfl := Except.ok.inj (hd.symm.trans hd')
  obtain rfl := Except.ok.inj (hc.symm.trans hc')
  obtain rfl := Except.ok.inj (hr.symm.trans hr')
  exact Option.some.inj (ht'.symm.trans ht)

/-- What is taken stands as nothing in JSON iff it is an infinite number. -/
theorem Takes.lookup_eq_null (h : Takes settings form data taken) (name : String) :
    (Value.asJsonEntries true taken).lookup name = some .null ↔
      ∃ negative, taken.lookup name = some (.real (.infinite negative)) := by
  obtain ⟨f, values, s, r, hf, -, hc, hr, ht⟩ := h
  rw [Value.lookup_asJsonEntries, Option.map_eq_some_iff]
  constructor
  · rintro ⟨v, hv, hj⟩
    obtain ⟨hnull, x, hx, w, hfw, ha⟩ := Schema.taken_of_mem hc hr ht (Entries.mem_of_lookup hv)
    obtain ⟨t, hxt⟩ := (Form.legible_of_text hf x hx).type
    obtain ⟨negative, rfl⟩ := x.infinite_of_accepted hfw hxt ha hnull hj
    exact ⟨negative, hv⟩
  · rintro ⟨negative, hv⟩
    exact ⟨_, hv, rfl⟩

/-- What is taken is taken again iff nothing in it stands as nothing in JSON. -/
theorem Takes.again_iff (h : Takes settings form data taken)
    (ht : Json.read text = .ok (.record (Value.asJsonEntries true taken))) :
    (∃ taken', Takes settings form text taken' ∧
      Value.asJsonEntries true taken' = Value.asJsonEntries true taken) ↔
      ∀ name, (Value.asJsonEntries true taken).lookup name ≠ some .null := by
  have hnull := h.lookup_eq_null
  obtain ⟨f, values, s, r, hf, -, hc, hr, htaken⟩ := h
  constructor
  · rintro ⟨taken', ⟨f', values', s', r', -, hd', hc', hr', htaken'⟩, he⟩ name hn
    obtain rfl := Except.ok.inj ((data_of_read ht).symm.trans hd')
    have hkeys : Entries.keys taken' = Entries.keys (Value.asJsonEntries true taken) := by
      rw [← he, Value.keys_asJsonEntries]
    have hv : Schema.valueOf (Value.asJsonEntries true taken) name = .null := by
      rw [Schema.valueOf, hn]
      rfl
    refine Schema.not_mem_keys_taken hc' hr' htaken' hv ?_
    rw [hkeys, ← Entries.isSome_lookup, hn]
    rfl
  · intro hn
    have hdeclared : ∀ x ∈ f.fields, ∃ t, x.type = .declared t := fun x hx =>
      (Form.legible_of_text hf x hx).type
    have hr' := Schema.validate_asJson hc hr htaken hdeclared (by
      rintro name v hv ⟨negative, rfl⟩
      exact hn name ((hnull name).2 ⟨negative, hv⟩))
    exact ⟨taken, ⟨f, _, s, r, hf, data_of_read ht, hc, hr', htaken⟩, rfl⟩

/-- **A report feeds back unless there is nothing under a name.**  The object that
    a report approves of comes back from its text.  Where it stands for the data,
    the report approves of the same object again iff there is nothing under none
    of its names; and that is under the names that are taken as infinite
    numbers. -/
theorem feeds_back_iff (h : Approves settings form data object) :
    (∀ style finite, Json.Style.Readable style finite →
      Json.read (Json.write style object) = .ok object) ∧
    (∀ text, Json.read text = .ok object →
      (Approves settings form text object ↔ ∀ name, object.get? name ≠ some .null)) ∧
    ∀ name, object.get? name = some .null ↔ ∃ taken negative,
      Takes settings form data taken ∧ taken.lookup name = some (.real (.infinite negative)) := by
  obtain ⟨report, v, -, hread, -, hv⟩ := id h
  obtain ⟨taken, htakes, rfl⟩ := approves_iff.1 h
  refine ⟨fun style finite hs => ?back, fun text ht => ?again, fun name => ?infinite⟩
  case back =>
    -- the object is part of a value that was read
    obtain ⟨hl, hn⟩ : (Value.record (Value.asJsonEntries true taken)).Legible ∧
        (Value.record (Value.asJsonEntries true taken)).nesting ≤ Value.maxNesting := by
      have hlegible := Json.legible_of_read hread
      have hnesting := Json.nesting_of_read hread
      cases v with
      | record es =>
        have hmem := Entries.mem_of_lookup hv
        exact ⟨(Value.legible_record.1 hlegible).2 _ hmem,
          Nat.le_trans (Value.levels_of_mem hmem) hnesting⟩
      | _ => cases hv
    exact (hl.read_write hn hs).trans (congrArg _ (Value.asJson_asJson finite (.record taken)))
  case again =>
    rw [approves_iff]
    simp only [Value.record.injEq, eq_comm (a := Value.asJsonEntries true taken)]
    exact htakes.again_iff ht
  case infinite =>
    refine (htakes.lookup_eq_null name).trans ⟨fun ⟨negative, hn⟩ => ⟨taken, negative, htakes, hn⟩, ?_⟩
    rintro ⟨taken', negative, htakes', hn⟩
    obtain rfl := htakes.unique htakes'
    exact ⟨negative, hn⟩

/-- A date, a number spelled out and a box that is not ticked: what they are taken
    as, fed back, is taken as the same. -/
theorem feeds_back_iff_date :
    let form := "[\x7b\"name\": \"due\", \"label\": \"Due\", \"type\": \"date\"\x7d, "
      ++ "\x7b\"name\": \"size\", \"label\": \"Size\", \"type\": \"number\"\x7d, "
      ++ "\x7b\"name\": \"paid\", \"label\": \"Paid\", \"type\": \"checkbox\"\x7d]"
    let data := "\x7b\"due\": \"2024-02-29\", \"size\": \"2.50\", \"paid\": \"no\"\x7d"
    let object : Value := .record [("due", .text "2024-02-29"),
      ("size", .real (.ofDecimal false 25 (-1))), ("paid", .bool false)]
    Approves {} form data object ∧
      Json.read (Json.write .asciiLines object) = .ok object ∧
      Approves {} form (Json.write .asciiLines object) object := by
  intro form data object
  have htakes : Takes {} form data [("due", .date ⟨2024, 2, 29, by decide⟩),
      ("size", .real (.ofDecimal false 25 (-1))), ("paid", .bool false)] :=
    takes_of_run (r := ⟨true, [], some _⟩) (by decide +kernel) rfl
  have h : Approves {} form data object := approves_iff.2 ⟨_, htakes, by decide +kernel⟩
  obtain ⟨back, again, -⟩ := feeds_back_iff h
  have hback := back .asciiLines false Json.readable_asciiLines
  refine ⟨h, hback, (again _ hback).2 fun name hn => ?_⟩
  have hm := Entries.mem_of_lookup hn
  simp at hm

/-- An infinite number is approved of as nothing, and nothing is left out. -/
theorem infinite_number_is_lost :
    let form := "[\x7b\"name\": \"n\", \"label\": \"N\", \"type\": \"number\"\x7d]"
    let object : Value := .record [("n", .null)]
    Approves {} form "\x7b\"n\": Infinity\x7d" object ∧
      ¬Approves {} form (Json.write .asciiLines object) object := by
  intro form object
  have htakes : Takes {} form "\x7b\"n\": Infinity\x7d" [("n", .real (.infinite false))] :=
    takes_of_run (r := ⟨true, [], some _⟩) (by decide +kernel) rfl
  refine ⟨approves_iff.2 ⟨_, htakes, rfl⟩, fun h => ?_⟩
  have hagain : Takes {} form (Json.write .asciiLines object) [] :=
    takes_of_run (r := ⟨true, [], some []⟩) (by decide +kernel) rfl
  obtain ⟨taken, ht, hobject⟩ := approves_iff.1 h
  obtain rfl := hagain.unique ht
  exact absurd hobject (by decide)

end
end Report
end Formulary
