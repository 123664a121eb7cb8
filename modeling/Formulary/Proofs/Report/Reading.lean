/-
  Reports as text, and what is read of it.

  * `Value.Legible` are the values that come back from their text: each record
    has its keys once, and no integer is too long;
  * `Schema.legible_of_validate`: the result for legible values is legible;
  * `Report.Validation.read_write`: the text of a report is read as the report,
    with dates as text and infinite numbers as nothing.
-/
import Formulary.Proofs.Data
import Formulary.Proofs.Json.RoundTrip
import Formulary.Proofs.Service.Entering

namespace Formulary

/-! ## Legible values -/

/-- Whether a value comes back from its text: each record has its keys once, and
    no integer is too long. -/
structure Value.Legible (v : Value) : Prop where
  tidy : v.Tidy
  short : v.IsShort

namespace Value
variable {vs : List Value} {es : Entries}

theorem legible_list : (list vs).Legible ↔ ∀ v ∈ vs, v.Legible := by
  constructor
  · rintro ⟨ht, hs⟩ v hv
    exact ⟨tidy_list.1 ht v hv, isShort_list.1 hs v hv⟩
  · intro h
    exact ⟨tidy_list.2 fun v hv => (h v hv).tidy, isShort_list.2 fun v hv => (h v hv).short⟩

theorem legible_record :
    (record es).Legible ↔ (Entries.keys es).Nodup ∧ ∀ p ∈ es, p.2.Legible := by
  constructor
  · rintro ⟨ht, hs⟩
    have ht := tidy_record.1 ht
    exact ⟨ht.1, fun p hp => ⟨ht.2 p hp, isShort_record.1 hs p hp⟩⟩
  · rintro ⟨hk, h⟩
    exact ⟨tidy_record.2 ⟨hk, fun p hp => (h p hp).tidy⟩,
      isShort_record.2 fun p hp => (h p hp).short⟩

theorem legible_null : null.Legible := ⟨trivial, rfl⟩

theorem legible_bool (b : Bool) : (bool b).Legible := ⟨trivial, rfl⟩

theorem legible_text (s : String) : (text s).Legible := ⟨trivial, rfl⟩

end Value

theorem Json.legible_of_read {s : String} {v : Value} (h : read s = .ok v) : v.Legible :=
  ⟨tidy_of_read h, short_of_read h⟩

/-- **A legible value that is written is read back**, unless it is nested too
    deeply. -/
theorem Value.Legible.read_write {v : Value} (hv : v.Legible) (hn : v.nesting ≤ maxNesting)
    {style : Json.Style} {finite : Bool} (hs : style.Readable finite) :
    Json.read (Json.write style v) = .ok (v.asJson finite) :=
  Json.read_write hs hv.tidy hv.short hn

theorem Form.legible_of_data {s : String} {values : Entries} (h : data s = .ok values) :
    (Value.record values).Legible := by
  obtain ⟨v, hv, h⟩ := bind_eq_ok.1 h
  have hl := Json.legible_of_read (mapError_eq_ok.1 hv)
  cases v with
  | record es =>
    cases h
    exact hl
  | _ => cases h

/-! ## Outcomes -/

theorem Number.short_of_ofText? {s : String} {n : Number} (h : ofText? s = some n) :
    (Value.number n).IsShort := by
  unfold ofText? at h
  cases hi : Reading.int? s.toList with
  | none =>
    rw [hi, Option.map_none, Option.none_or] at h
    obtain ⟨x, -, rfl⟩ := Option.map_eq_some_iff.1 h
    rfl
  | some i =>
    rw [hi, Option.map_some, Option.some_or] at h
    cases h
    exact Value.isShort_whole.2 (Reading.tooLong_of_int? hi)

/-- **What a legible value is taken as is legible.** -/
theorem Domain.legible_of_coerce {d : Domain} {raw v : Value} (hr : raw.Legible)
    (h : d.coerce raw = .ok v) : v.Legible := by
  cases d with
  | string | date | boolean =>
    obtain ⟨x, rfl⟩ := coerce_has h
    exact ⟨trivial, rfl⟩
  | number =>
    obtain ⟨n, rfl, -⟩ := coerce_has h
    refine ⟨trivial, ?_⟩
    have taken : ∀ m, toNumber.number m = .ok (.number n) → m = n := by
      intro m hm
      unfold toNumber.number at hm
      split at hm
      · cases hm
      · cases hm
        rfl
    rw [coerce] at h
    unfold toNumber at h
    split at h
    · obtain rfl := taken _ h
      exact hr.short
    · split at h
      · obtain rfl := taken _ h
        rename_i hn
        exact Number.short_of_ofText? hn
      · cases h
    · cases h
    · cases h
  | mixed =>
    cases h
    exact hr

/-- Whether what an outcome shows is legible: the value that is taken, or the one
    that was received. -/
def Outcome.Legible : Outcome → Prop
  | .accepted v => v.Legible
  | .rejected e => e.received.Legible

theorem Outcome.Legible.value {o : Outcome} (h : o.Legible) : o.value.Legible := by
  cases o with
  | accepted v => exact h
  | rejected e => exact Value.legible_null

namespace Field
variable {f : Field} {w : Validator} {raw v : Value} {o : Outcome}

theorem legible_settle (hr : raw.Legible) (hv : v.Legible) (r? : Option Rule) :
    (f.settle raw v r?).Legible := by
  cases r? with
  | none => exact hv
  | some r => exact hr

theorem legible_of_validate (hf : f.compile = .ok w) (hr : raw.Legible)
    (h : w.validate raw = .ok o) : o.Legible := by
  rcases validate_cases hf h with ⟨-, rfl⟩ | ⟨-, v, hc, rfl⟩ | ⟨-, rfl⟩
  · exact legible_settle hr Value.legible_null _
  · exact legible_settle hr (Domain.legible_of_coerce hr hc) _
  · exact hr

end Field

/-! ## Results -/

theorem FieldError.legible_toValue {e : FieldError} (h : e.received.Legible) :
    e.toValue.Legible := by
  refine Value.legible_record.2 ⟨by simp [Entries.keys], ?_⟩
  simp only [List.forall_mem_cons]
  exact ⟨Value.legible_text _, Value.legible_text _, Value.legible_text _, h,
    List.forall_mem_nil _⟩

namespace Schema
variable {s : Schema} {values : Entries} {r : Result} {o : String → Outcome}

theorem legible_valueOf (h : (Value.record values).Legible) (name : String) :
    (valueOf values name).Legible := by
  unfold valueOf
  cases hl : values.lookup name with
  | none => exact Value.legible_null
  | some v => exact (Value.legible_record.1 h).2 _ (Entries.mem_of_lookup hl)

theorem MadeUp.keys_data {data : Entries} (h : s.MadeUp o r) (hd : r.data = some data) :
    (Entries.keys data).Nodup := by
  have hk : Entries.keys data = s.names.filter fun n => (o n).value ≠ .null := by
    rw [h.data data hd, Entries.keys, List.map_filterMap, ← List.filterMap_eq_filter]
    refine List.filterMap_congr fun n _ => ?_
    by_cases hv : (o n).value = .null <;> simp [hv, Option.guard]
  rw [hk]
  exact List.Nodup.sublist List.filter_sublist s.distinct

theorem MadeUp.legible (h : s.MadeUp o r) (ho : ∀ n ∈ s.names, (o n).Legible) :
    r.toValue.Legible := by
  refine Value.legible_record.2 ⟨by simp [Entries.keys], ?_⟩
  simp only [List.forall_mem_cons]
  refine ⟨Value.legible_bool _, ?errors, ?data, List.forall_mem_nil _⟩
  case errors =>
    rw [Value.legible_list, h.errors, List.forall_mem_map]
    intro e he
    obtain ⟨n, hn, he⟩ := List.mem_filterMap.1 he
    have hl := ho n hn
    cases hon : o n with
    | accepted v =>
      rw [hon] at he
      cases he
    | rejected e' =>
      rw [hon] at he hl
      cases he
      exact FieldError.legible_toValue hl
  case data =>
    cases hd : r.data with
    | none => exact Value.legible_null
    | some data =>
      refine Value.legible_record.2 ⟨h.keys_data hd, fun p hp => ?_⟩
      obtain ⟨hn, hv, -⟩ := (h.mem_data hd).1 hp
      exact hv ▸ (ho p.1 hn).value

/-- **The result for legible values is legible.** -/
theorem legible_of_validate (hs : s.OfFields) (hv : (Value.record values).Legible)
    (h : s.validate values = .ok r) : r.toValue.Legible := by
  obtain ⟨o, ho, rfl⟩ := validate_eq_ok.1 h
  refine (madeUp_summary hs ho).legible fun n hn => ?_
  obtain ⟨p, hp, rfl⟩ := List.mem_map.1 hn
  obtain ⟨f, -, hf⟩ := hs p hp
  have hvalue := ho p.1 hn
  rw [validateField_of_mem hp] at hvalue
  exact Field.legible_of_validate hf (legible_valueOf hv p.1) hvalue

end Schema

/-! ## Reports -/

namespace Report.Validation

/-- **The text of a report is read as the report**, with dates as text and
    infinite numbers as nothing. -/
theorem read_write {v : Validation} {text : String}
    (h : ∀ r, v = .result r → r.toValue.Legible) (hw : v.write = .ok text) :
    Json.read text = .ok (v.toValue.asJson true) := by
  cases v with
  | result r =>
    obtain ⟨-, rfl⟩ := Json.writeGuarded_eq_ok.1 hw
    exact (h r rfl).read_write (Result.nesting_of_write hw) Json.readable_unicodeLines
  | failed errorType message =>
    obtain rfl : Json.write .ascii (failed.toValue errorType message) = text := Except.ok.inj hw
    have hn : (failed.toValue errorType message).nesting ≤ Value.maxNesting := by
      simp [failed.toValue, Value.levels, Value.levelsEntries, Value.levelsItems, Value.maxNesting]
    have hl : (failed.toValue errorType message).Legible := ⟨by
      simp [failed.toValue, Value.Tidy, Value.TidyEntries, Value.TidyItems, Entries.keys], rfl⟩
    -- there are no numbers in it, so what becomes of infinite ones does not matter
    have he : (failed.toValue errorType message).asJson false =
        (failed.toValue errorType message).asJson true := rfl
    exact (hl.read_write hn Json.readable_ascii).trans (congrArg _ he)

end Report.Validation
end Formulary
