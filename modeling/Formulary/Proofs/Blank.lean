/-
  The three spellings of nothing: no entry, null and the empty text.

  * `Validator.validate_congr`: a validator asks of a value whether it is given
    and what it is taken as, and no more; the rest it hands back in an error;
  * `Schema.validate_alike`: so values that are alike but for the spelling of
    nothing have one result, but for what its errors hand back;
  * `blanks_are_one` adds what nothing itself comes to.
-/
import Formulary.Proofs.Data
import Formulary.Proofs.Form.Required

namespace Formulary

/-! ## What errors hand back -/

/-- An error that hands back another value. -/
def FieldError.receiving (e : FieldError) (raw : Value) : FieldError := { e with received := raw }

/-- An outcome whose error, if it is one, hands back another value. -/
def Outcome.receiving (o : Outcome) (raw : Value) : Outcome :=
  match o with
  | .accepted v => .accepted v
  | .rejected e => .rejected (e.receiving raw)

/-- A result whose errors hand back what stands under their names in other
    values. -/
def Result.receiving (r : Result) (values : Entries) : Result :=
  { r with errors := r.errors.map fun e => e.receiving (Schema.valueOf values e.fieldName) }

theorem Outcome.error?_receiving (o : Outcome) (raw : Value) :
    (o.receiving raw).error? = o.error?.map (·.receiving raw) := by
  cases o <;> rfl

theorem Outcome.value_receiving (o : Outcome) (raw : Value) :
    (o.receiving raw).value = o.value := by
  cases o <;> rfl

namespace Validator
variable {v : Validator} {raw raw' value : Value}

theorem run_receiving (cs : List Check) :
    v.run raw' value cs = (v.run raw value cs).map (·.receiving raw') := by
  induction cs with
  | nil => rfl
  | cons c cs ih =>
    rw [run, run]
    cases c.passes value with
    | error e => rfl
    | ok b =>
      cases b with
      | true => exact ih
      | false => rfl

theorem judge_receiving : v.judge raw' value = (v.judge raw value).map (·.receiving raw') := by
  unfold judge
  cases v.requiredMessage with
  | none => exact run_receiving _
  | some m =>
    dsimp only
    split
    · rfl
    · exact run_receiving _

/-- **A validator asks of a value whether it is given and what it is taken as.**
    Where two values agree in that, they have the same outcome, but for the
    value that an error hands back. -/
theorem validate_congr (hb : raw'.isBlank = raw.isBlank)
    (hc : raw.isBlank = false → v.domain.coerce raw' = v.domain.coerce raw) :
    v.validate raw' = (v.validate raw).map (·.receiving raw') := by
  unfold validate
  rw [hb]
  cases h : raw.isBlank with
  | true => cases v.requiredMessage <;> rfl
  | false =>
    rw [hc h]
    cases v.domain.coerce raw with
    | ok value => exact judge_receiving
    | error e => cases e <;> rfl

end Validator

/-! ## Values that are alike -/

/-- Whether two values are the same but for the spelling of nothing. -/
def Value.Alike (v w : Value) : Prop := v = w ∨ v.isBlank = true ∧ w.isBlank = true

theorem Validator.validate_alike {v : Validator} {raw raw' : Value} (h : raw.Alike raw') :
    v.validate raw' = (v.validate raw).map (·.receiving raw') := by
  rcases h with rfl | ⟨hb, hb'⟩
  · exact validate_congr rfl fun _ => rfl
  · refine validate_congr (hb'.trans hb.symm) fun hn => ?_
    rw [hb] at hn
    cases hn

namespace Schema
variable {s : Schema} {values values' : Entries}

/-- Outcomes that hand back other values make up a result that does. -/
theorem summary_receiving {os : List (String × Outcome)}
    (hn : ∀ q ∈ os, ∀ e, q.2.error? = some e → e.fieldName = q.1) :
    summary (os.map fun q => (q.1, q.2.receiving (valueOf values q.1))) =
      (summary os).receiving values := by
  have errors : os.filterMap (fun q => (q.2.receiving (valueOf values q.1)).error?) =
      (os.filterMap (·.2.error?)).map fun e => e.receiving (valueOf values e.fieldName) := by
    rw [List.map_filterMap]
    refine List.filterMap_congr fun q hq => ?_
    rw [Outcome.error?_receiving]
    cases he : q.2.error? with
    | none => rfl
    | some e => rw [Option.map_some, Option.map_some, hn q hq e he]
  unfold summary Result.receiving
  simp only [List.filterMap_map, List.filter_map, List.map_map, Function.comp_def,
    Outcome.value_receiving, errors, List.isEmpty_map]

/-- **Values that are alike but for the spelling of nothing have one result**, or
    fault alike; only what its errors hand back may differ. -/
theorem validate_alike (hs : s.OfFields)
    (hv : ∀ n ∈ s.names, (valueOf values n).Alike (valueOf values' n)) :
    s.validate values' = (s.validate values).map (·.receiving values') := by
  have each : ∀ p ∈ s.validators,
      (p.2.validate (valueOf values' p.1)).map (p.1, ·) =
        ((p.2.validate (valueOf values p.1)).map (p.1, ·)).map
          fun q => (q.1, q.2.receiving (valueOf values' q.1)) := by
    intro p hp
    rw [Validator.validate_alike (hv p.1 (List.mem_map_of_mem hp))]
    cases p.2.validate (valueOf values p.1) <;> rfl
  have outcomes_eq : s.outcomes values' =
      (s.outcomes values).map fun os =>
        os.map fun q => (q.1, q.2.receiving (valueOf values' q.1)) := mapM_eq_map each
  rw [validate, validate, outcomes_eq]
  cases ho : s.outcomes values with
  | error e => rfl
  | ok os =>
    refine congrArg Except.ok (summary_receiving fun q hq e he => ?_)
    obtain ⟨p, hp, hn, hq⟩ := forall₂_mem_left (outcomes_eq_ok.1 ho).flip q hq
    obtain ⟨f, hf, hc⟩ := hs p hp
    cases hqo : q.2 with
    | accepted w =>
      rw [hqo] at he
      cases he
    | rejected e' =>
      rw [hqo] at he hq
      cases he
      rw [(Field.of_rejected hc hq).1, hf, hn]

/-! ## What nothing comes to -/

/-- Nothing is taken as nothing, or turned down where something has to be given. -/
theorem validateField_blank {form : Form} {strict : Bool} (hc : compile strict form.fields = .ok s)
    {name : String} {f : Field} (hf : form.lastField? name = some f) {raw : Value}
    (hb : raw.isBlank = true) :
    ∃ o, s.validateField name raw = .ok o ∧ o.value = .null ∧
      (o.error?.isSome = true ↔ f.hasRule .required = true) := by
  obtain ⟨f', v, hf', hv, hfv⟩ := (lists_of_compile hc).last name (Form.mem_names hf)
  obtain rfl : f' = f := Option.some.inj (hf'.symm.trans hf)
  refine ⟨f'.settle raw .null f'.requirement?, ?_, ?_, ?_⟩
  · rw [validateField, get?, hv]
    exact Field.validate_blank hfv hb
  · cases f'.requirement? <;> rfl
  · rw [← Field.isRequired_eq hfv, Validator.isRequired]
    obtain ⟨cs, -, -, rfl⟩ := Field.compile_eq_ok hfv
    rw [Field.requiredMessage_eq]
    cases f'.requirement? <;> simp [Field.settle, Outcome.error?]

end Schema

/-- **The three spellings of nothing are one.**  Values that differ only in names
    with no entry, null or the empty text have the same result, or fault alike:
    the same verdict, data and errors, each of which hands back what it was
    given.  A field takes nothing as nothing, unless a value has to be given; so
    nothing is an error of just the fields with a rule that asks for a value, and
    stands in no data. -/
theorem blanks_are_one {form : Form} {strict : Bool} {s : Schema}
    (hc : Schema.compile strict form.fields = .ok s) (values : Entries) :
    (∀ values', (∀ n ∈ s.names, (Schema.valueOf values n).Alike (Schema.valueOf values' n)) →
      s.validate values' = (s.validate values).map (·.receiving values')) ∧
    ∀ name f, form.lastField? name = some f → (Schema.valueOf values name).isBlank = true →
      (∃ o, s.validateField name (Schema.valueOf values name) = .ok o ∧ o.value = .null ∧
        (o.error?.isSome = true ↔ f.hasRule .required = true)) ∧
      ∀ r, s.validate values = .ok r →
        (name ∈ r.errors.map (·.fieldName) ↔ f.hasRule .required = true) ∧
        ∀ data, r.data = some data → name ∉ Entries.keys data := by
  have hs := Schema.ofFields_of_compile hc
  refine ⟨fun values' hv => Schema.validate_alike hs hv, fun name f hf hb => ?nothing⟩
  case nothing =>
    obtain ⟨o', ho', hnull, hreq⟩ := Schema.validateField_blank hc hf hb
    refine ⟨⟨o', ho', hnull, hreq⟩, fun r hr => ?_⟩
    have hn : name ∈ s.names := by
      rw [Schema.names, (Schema.lists_of_compile hc).keys_eq]
      exact Form.mem_names hf
    obtain ⟨o, ho, rfl⟩ := Schema.validate_eq_ok.1 hr
    have hm := Schema.madeUp_summary hs ho
    obtain rfl : o name = o' := Except.ok.inj ((ho name hn).symm.trans ho')
    constructor
    · rw [hm.errors, Schema.map_fieldName_filterMap hm.named, List.mem_filter, hreq]
      exact and_iff_right hn
    · intro data hd hk
      obtain ⟨⟨n, v⟩, hp, rfl⟩ := List.mem_map.1 hk
      obtain ⟨-, hv, hne⟩ := (hm.mem_data hd).1 hp
      exact hne (hv.symm.trans hnull)

/-- A name that has to be given, a number and a date that need not: left out,
    null or the empty text, the one is missed and the others are not. -/
theorem blanks_are_one_booking :
    let who : Field :=
      { name := "who", label := "Name", type := .declared .text,
        rules := [⟨.minLength, .int 2, "Too short"⟩, ⟨.required, .null, "Who comes?"⟩] }
    let seats : Field :=
      { name := "seats", label := "Seats", type := .declared .number,
        rules := [⟨.min, .int 1, "At least one"⟩] }
    let day : Field := { name := "day", label := "Day", type := .declared .date }
    let form : Form := { fields := [who, seats, day] }
    ∃ s r, Schema.compile false form.fields = .ok s ∧
      s.validate [("who", .text ""), ("seats", .null)] = .ok r ∧
      r.errors = [⟨"who", "required", "Who comes?", .text ""⟩] ∧
      s.validate [("day", .text ""), ("who", .null)] =
        .ok { r with errors := [⟨"who", "required", "Who comes?", .null⟩] } ∧
      "seats" ∉ r.errors.map (·.fieldName) := by
  intro who seats day form
  have hc : Schema.compile false form.fields = .ok _ := rfl
  have hr : ∀ s, Schema.compile false form.fields = .ok s →
      s.validate [("who", .text ""), ("seats", .null)] =
        .ok ⟨false, [⟨"who", "required", "Who comes?", .text ""⟩], none⟩ := by
    intro s hs
    obtain rfl := Except.ok.inj (hc.symm.trans hs)
    decide +kernel
  obtain ⟨same, nothing⟩ := blanks_are_one hc [("who", .text ""), ("seats", .null)]
  refine ⟨_, _, hc, hr _ hc, rfl, ?_, ?_⟩
  · rw [same _ (by unfold Value.Alike; decide +kernel), hr _ hc]
    rfl
  · exact fun h => absurd (((nothing "seats" seats rfl rfl).2 _ (hr _ hc)).1.1 h) (by decide)

end Formulary
