/-
  The data of a valid result: what the values of a form are handed on as.

  * `Field.Admits` is what a field hands on: a value of its type, something at
    that, which meets the rules that apply;
  * `data_is_admitted`: the data has the names that have to be there, and under
    each a value that the last field of the name admits;
  * `data_validates_to_itself`: data is valid once more, and taken as it is.
-/
import Formulary.Proofs.Number.Digits
import Formulary.Proofs.Outcome

namespace Formulary

/-! ## What is given stays given -/

theorem Decimal.write_ne_empty (layout : Layout) (d : Decimal) : d.write layout ≠ "" := by
  rw [write, Ne, String.ofList_eq_empty_iff]
  split
  · unfold positional
    split
    · simp
    · dsimp only
      split <;> simp
  · simp [scientific]

/-- A number is written as something. -/
theorem Number.write_ne_empty (n : Number) : n.write .plain ≠ "" := by
  cases n with
  | whole n => simp [write, writeInt, Reading.padded_ne_empty]
  | real x =>
    cases x with
    | finite s e f => simp [write, Binary64.write, Decimal.write_ne_empty]
    | infinite s => cases s <;> simp [write, Binary64.write, Layout.plain]
    | nan => simp [write, Binary64.write, Layout.plain]

namespace Domain
variable {raw v : Value}

/-- What is given is not taken as nothing. -/
theorem coerce_given {d : Domain} (hb : raw.isBlank = false) (h : d.coerce raw = .ok v) :
    v.isBlank = false := by
  have hv := coerce_has h
  cases d with
  | string =>
    rw [coerce] at h
    unfold toText at h
    split at h
    · cases h
      exact hb
    · split at h
      · cases h
      · cases h
        simp [Value.isBlank, Number.write_ne_empty]
    · cases h
  | number =>
    obtain ⟨n, rfl, -⟩ := hv
    simp [Value.isBlank]
  | date | boolean =>
    obtain ⟨x, rfl⟩ := hv
    simp [Value.isBlank]
  | mixed =>
    cases h
    exact hb

end Domain

/-! ## Values that a field hands on -/

/-- The values of an input type. -/
def FieldType.Takes (t : FieldType) (v : Value) : Prop :=
  match t with
  | .text | .email | .password | .select | .radio | .textarea => ∃ s, v = .text s ∧ s ≠ ""
  | .number => ∃ n : Number, v = .number n ∧ n.isNaN = false
  | .date => ∃ d, v = .date d
  | .checkbox => ∃ b, v = .bool b

/-- Whether a value is what a rule asks for, by the argument of the rule. -/
def Rule.IsMet (r : Rule) (v : Value) : Prop :=
  match r.kind with
  | .required => v.isBlank = false
  | .optional => True
  | .email => ∃ s, v = .text s ∧ Address.isValid s = true
  | .min => ∃ least n, r.argument.bound? = some least ∧ v = .number n ∧ least.le n = true
  | .max => ∃ most n, r.argument.bound? = some most ∧ v = .number n ∧ n.le most = true
  | .minLength => ∃ least s, r.argument.length? = some least ∧ v = .text s ∧ least ≤ s.length
  | .maxLength => ∃ most s, r.argument.length? = some most ∧ v = .text s ∧ s.length ≤ most
  | .pattern => ∃ source p s, r.argument = .text source ∧ Rule.pattern? source = .ok (some p) ∧
      v = .text s ∧ p.search s = true

/-- Whether a value is one that a field hands on: it is something, of the type
    of the field, ticked if it is a box that has to be, and what the rules ask
    for that apply to the type and have a usable argument. -/
structure Field.Admits (f : Field) (v : Value) : Prop where
  given : v ≠ .null ∧ v ≠ .text ""
  typed : ∀ t, f.type.known? = some t → t.Takes v
  ticked : f.type.known? = some .checkbox → f.hasRule .required = true → v = .bool true
  met : ∀ r ∈ f.rules, r.kind.appliesTo f.type = true → r.isUsable = .ok true → r.IsMet v

section
variable {t : FieldType} {r : Rule} {p : Demand} {v : Value}

theorem Value.isBlank_eq_false : v.isBlank = false ↔ v ≠ .null ∧ v ≠ .text "" := by
  simp [isBlank]

theorem FieldType.takes_of_has (hv : (Domain.ofType t).Has v) (hb : v.isBlank = false) :
    t.Takes v := by
  cases t with
  | number | date | checkbox => exact hv
  | text | email | password | select | radio | textarea =>
    obtain ⟨s, rfl⟩ := hv
    refine ⟨s, rfl, fun hs => ?_⟩
    exact (Value.isBlank_eq_false.1 hb).2 (by rw [hs])

/-- A rule whose demand is met is. -/
theorem Rule.isMet_of_holds {d : Domain} (hp : r.demand? = .ok (some p)) (hd : p.Fits d)
    (hv : d.Has v) (h : p.holds v = .ok true) : r.IsMet v := by
  unfold demand? at hp
  unfold IsMet
  cases hk : r.kind with
  | required | optional => simp [hk] at hp
  | email =>
    obtain rfl : Demand.email = p := by simpa [hk] using hp
    obtain rfl : d = .string := hd
    obtain ⟨s, rfl⟩ := hv
    exact ⟨s, rfl, Except.ok.inj h⟩
  | min =>
    obtain ⟨least, hl, rfl⟩ : ∃ b, r.argument.bound? = some b ∧ .atLeast b = p := by
      simpa [hk] using hp
    obtain rfl : d = .number := hd
    obtain ⟨n, rfl, -⟩ := hv
    exact ⟨least, n, hl, rfl, Except.ok.inj h⟩
  | max =>
    obtain ⟨most, hm, rfl⟩ : ∃ b, r.argument.bound? = some b ∧ .atMost b = p := by
      simpa [hk] using hp
    obtain rfl : d = .number := hd
    obtain ⟨n, rfl, -⟩ := hv
    exact ⟨most, n, hm, rfl, Except.ok.inj h⟩
  | minLength =>
    obtain ⟨least, hl, rfl⟩ : ∃ k, r.argument.length? = some k ∧ .minLength k = p := by
      simpa [hk] using hp
    obtain rfl : d = .string := hd
    obtain ⟨s, rfl⟩ := hv
    exact ⟨least, s, hl, rfl, of_decide_eq_true (Except.ok.inj h)⟩
  | maxLength =>
    obtain ⟨most, hm, rfl⟩ : ∃ k, r.argument.length? = some k ∧ .maxLength k = p := by
      simpa [hk] using hp
    obtain rfl : d = .string := hd
    obtain ⟨s, rfl⟩ := hv
    exact ⟨most, s, hm, rfl, of_decide_eq_true (Except.ok.inj h)⟩
  | pattern =>
    simp only [hk] at hp
    split at hp
    · rename_i source ha
      obtain ⟨q?, hq, hs⟩ := map_eq_ok.1 hp
      obtain ⟨q, rfl, rfl⟩ := Option.map_eq_some_iff.1 hs
      obtain rfl : d = .string := hd
      obtain ⟨s, rfl⟩ := hv
      exact ⟨source, q, s, ha, hq, rfl, Except.ok.inj h⟩
    · cases hp

/-- **A rule that is not broken is met**, if it applies and is usable. -/
theorem Rule.isMet_of_not_isBroken {tag : TypeTag} (ha : r.kind.appliesTo tag = true)
    (hu : r.isUsable = .ok true) (hv : (Domain.ofTag tag).Has v) (hb : v.isBlank = false)
    (h : r.isBroken tag v = false) : r.IsMet v := by
  cases hk : r.kind.isPresence with
  | true =>
    unfold IsMet
    cases hr : r.kind with
    | required => exact hb
    | optional => trivial
    | _ => simp [RuleKind.isPresence, hr] at hk
  | false =>
    rw [isUsable, hk, if_neg Bool.false_ne_true] at hu
    obtain ⟨p?, hp, hs⟩ := map_eq_ok.1 hu
    obtain ⟨p, rfl⟩ := Option.isSome_iff_exists.1 hs
    have hf := fits_of_appliesTo hk ha hp
    obtain ⟨b, hb⟩ := Demand.holds_of_fits hf hv
    have hbt : b = true := by
      simpa [isBroken, hk, ha, hp, Demand.isBroken, hb] using h
    exact isMet_of_holds hp hf hv (hbt ▸ hb)

end

namespace Field
variable {f : Field} {w : Validator} {raw v : Value}

theorem exists_requirement (h : f.hasRule .required = true) : ∃ r, f.requirement? = some r := by
  obtain ⟨r, hr, hk⟩ := List.any_eq_true.1 h
  exact Option.isSome_iff_exists.1 (List.find?_isSome.2 ⟨r, hr, hk⟩)

/-- **What a field hands on it admits.** -/
theorem admits_of_accepted (hf : f.compile = .ok w) (h : w.validate raw = .ok (.accepted v))
    (hv : v ≠ .null) : f.Admits v := by
  rcases (validate_accepted hf).1 h with ⟨-, rfl, -⟩ | ⟨hb, hc, ho⟩
  · exact absurd rfl hv
  have hd := Domain.coerce_has hc
  have hg := Domain.coerce_given hb hc
  obtain ⟨hr, hm⟩ := Option.or_eq_none_iff.1 ho
  refine ⟨Value.isBlank_eq_false.1 hg, fun t ht => ?typed, fun ht hq => ?ticked,
    fun r hmem ha hu => ?met⟩
  case typed =>
    rw [Domain.ofTag, ht] at hd
    exact FieldType.takes_of_has hd hg
  case ticked =>
    obtain ⟨r, hr'⟩ := exists_requirement hq
    have ht' : Domain.ofTag f.type = .boolean := by rw [Domain.ofTag, ht]; rfl
    rw [ht'] at hd
    obtain ⟨b, rfl⟩ := hd
    cases b with
    | true => rfl
    | false => simp [ht', hr'] at hr
  case met =>
    have hn := List.find?_eq_none.1 hm r hmem
    exact Rule.isMet_of_not_isBroken ha hu hd hg (Bool.eq_false_iff.2 hn)

/-- A field that has to be given hands something on. -/
theorem ne_null_of_accepted (hf : f.compile = .ok w) (h : w.validate raw = .ok (.accepted v))
    (hq : f.hasRule .required = true) : v ≠ .null := by
  obtain ⟨r, hr⟩ := exists_requirement hq
  rcases (validate_accepted hf).1 h with ⟨-, -, hn⟩ | ⟨hb, hc, -⟩
  · rw [hr] at hn
    cases hn
  · exact (Value.isBlank_eq_false.1 (Domain.coerce_given hb hc)).1

/-- **What a field hands on it takes as it is.** -/
theorem validate_again (hf : f.compile = .ok w) (h : w.validate raw = .ok (.accepted v)) :
    w.validate v = .ok (.accepted v) := by
  rw [validate_accepted hf] at h ⊢
  rcases h with ⟨-, rfl, hr⟩ | ⟨hb, hc, ho⟩
  · exact .inl ⟨rfl, rfl, hr⟩
  · exact .inr ⟨Domain.coerce_given hb hc, Domain.coerce_of_has (Domain.coerce_has hc), ho⟩

end Field

/-! ## The data -/

namespace Schema
variable {s : Schema} {values data : Entries} {r : Result} {o : String → Outcome} {n : String}

section
variable (h : s.MadeUp o r) (hd : r.data = some data)
include h hd

/-- Where there is data, there is nothing else. -/
theorem MadeUp.eq_of_data : r = { isValid := true, errors := [], data := some data } := by
  have he := h.present.1 (by rw [hd]; rfl)
  have hv := h.valid.2 he
  cases r
  cases hd
  cases he
  cases hv
  rfl

/-- Where there is data, each name is taken as something. -/
theorem MadeUp.accepted (hn : n ∈ s.names) : o n = .accepted (o n).value := by
  have hr := h.errors
  rw [h.eq_of_data hd, eq_comm, List.filterMap_eq_nil_iff] at hr
  cases ho : o n with
  | accepted v => rfl
  | rejected e =>
    have := hr n hn
    rw [ho] at this
    cases this

theorem MadeUp.mem_data {v : Value} :
    (n, v) ∈ data ↔ n ∈ s.names ∧ (o n).value = v ∧ v ≠ .null := by
  rw [h.data data hd, List.mem_filterMap]
  constructor
  · rintro ⟨m, hm, he⟩
    split at he
    · cases he
    · cases he
      exact ⟨hm, rfl, ‹_›⟩
  · rintro ⟨hm, rfl, hv⟩
    exact ⟨n, hm, if_neg hv⟩

/-- In the data each name has what it is taken as. -/
theorem MadeUp.valueOf_data (hn : n ∈ s.names) : valueOf data n = (o n).value := by
  have he : data = s.names.filterMap fun n =>
      (if (o n).value = .null then none else some (o n).value).map (n, ·) := by
    rw [h.data data hd]
    refine List.filterMap_congr fun n _ => ?_
    split <;> rfl
  rw [valueOf, he, Entries.lookup_filterMap, if_pos hn]
  split
  · rename_i hv
    exact hv.symm
  · rfl

end

/-- **The data of a valid result is what its fields admit.**  Under each of its
    names stands a value that the last field of the name admits, and all names
    stand in it whose last field has to be given. -/
theorem data_is_admitted {form : Form} {strict : Bool} (hc : compile strict form.fields = .ok s)
    (hr : s.validate values = .ok r) (hv : r.isValid = true) :
    ∃ data, r.data = some data ∧
      (∀ name v, (name, v) ∈ data → ∃ f, form.lastField? name = some f ∧ f.Admits v) ∧
      (∀ name f, form.lastField? name = some f → f.hasRule .required = true →
        name ∈ Entries.keys data) := by
  have hl := lists_of_compile hc
  obtain ⟨o, ho, rfl⟩ := validate_eq_ok.1 hr
  have hm := madeUp_summary (ofFields_of_compile hc) ho
  obtain ⟨data, hd⟩ := Option.isSome_iff_exists.1 (hm.present.2 (hm.valid.1 hv))
  -- a name is taken as what the validator of its last field has accepted
  have taken : ∀ name ∈ s.names, ∃ f w, form.lastField? name = some f ∧ f.compile = .ok w ∧
      w.validate (valueOf values name) = .ok (.accepted (o name).value) := by
    intro name hn
    obtain ⟨f, w, hf, hw, hfw⟩ := hl.last name (hl.keys_eq ▸ hn)
    refine ⟨f, w, hf, hfw, ?_⟩
    rw [← hm.accepted hd hn, ← ho name hn, validateField, get?, hw]
  refine ⟨data, hd, fun name v hnv => ?admitted, fun name f hf hq => ?there⟩
  case admitted =>
    obtain ⟨hn, rfl, hv⟩ := (hm.mem_data hd).1 hnv
    obtain ⟨f, w, hf, hfw, ha⟩ := taken name hn
    exact ⟨f, hf, f.admits_of_accepted hfw ha hv⟩
  case there =>
    have hn : name ∈ s.names := by
      rw [names, hl.keys_eq]
      exact form.mem_names hf
    obtain ⟨f', w, hf', hfw, ha⟩ := taken name hn
    obtain rfl := Option.some.inj (hf.symm.trans hf')
    have hne := f.ne_null_of_accepted hfw ha hq
    exact List.mem_map_of_mem (f := Prod.fst) ((hm.mem_data hd).2 ⟨hn, rfl, hne⟩)

/-- A name that is defined twice is handed on as its last field has it. -/
theorem data_is_admitted_twice :
    let text : Field := { name := "age", label := "Age", type := .declared .text }
    let age : Field :=
      { name := "age", label := "Age", type := .declared .number,
        rules := [⟨.min, .text "18", "Too young"⟩, ⟨.pattern, .text "a", "No effect"⟩] }
    let terms : Field :=
      { name := "terms", label := "Terms", type := .declared .checkbox,
        rules := [⟨.required, .null, "Please agree"⟩] }
    let form : Form := { fields := [text, terms, age] }
    let values : Entries := [("age", .text " 42 "), ("terms", .text "yes")]
    ∃ s r data, compile false form.fields = .ok s ∧ s.validate values = .ok r ∧
      r.isValid = true ∧ r.data = some data ∧ data = [("age", .int 42), ("terms", .bool true)] ∧
      age.Admits (.int 42) ∧ "terms" ∈ Entries.keys data := by
  intro text age terms form values
  have h : (compile false form.fields >>= (·.validate values)) =
      .ok ⟨true, [], some [("age", .int 42), ("terms", .bool true)]⟩ := by decide +kernel
  obtain ⟨s, hc, hr⟩ := bind_eq_ok.1 h
  obtain ⟨data, hd, ha, hq⟩ := data_is_admitted hc hr rfl
  obtain rfl := Option.some.inj hd
  obtain ⟨f, hf, hadmits⟩ := ha "age" (.int 42) (by simp)
  obtain rfl : age = f := Option.some.inj (.trans (by decide +kernel) hf)
  exact ⟨s, _, _, hc, hr, rfl, rfl, rfl, hadmits, hq "terms" terms (by decide +kernel) rfl⟩

/-- **Data validates to itself.**  The data of a valid result is valid, and is
    taken as it is: the result is the same once more. -/
theorem data_validates_to_itself {fields : List Field} {strict : Bool}
    (hc : compile strict fields = .ok s) (hr : s.validate values = .ok r)
    (hv : r.isValid = true) : ∃ data, r.data = some data ∧
      s.validate data = .ok { isValid := true, errors := [], data := some data } := by
  have hs := ofFields_of_compile hc
  obtain ⟨o, ho, rfl⟩ := validate_eq_ok.1 hr
  have hm := madeUp_summary hs ho
  obtain ⟨data, hd⟩ := Option.isSome_iff_exists.1 (hm.present.2 (hm.valid.1 hv))
  refine ⟨data, hd, validate_eq_ok.2 ⟨o, fun n hn => ?_, (hm.eq_of_data hd).symm⟩⟩
  obtain ⟨p, hp, rfl⟩ := List.mem_map.1 hn
  obtain ⟨f, -, hf⟩ := hs p hp
  have ha := ho p.1 hn
  rw [hm.accepted hd hn, validateField_of_mem hp] at ha ⊢
  rw [hm.valueOf_data hd hn]
  exact f.validate_again hf ha

/-- A number that stood where text is asked for, a date spelled out and an answer
    that was left out: what they are taken as stays. -/
theorem data_validates_to_itself_spelled :
    let size : Field := { name := "size", label := "Size", type := .declared .select }
    let due : Field := { name := "due", label := "Due", type := .declared .date }
    let note : Field := { name := "note", label := "Note", type := .declared .textarea }
    let extra : Field := { name := "extra", label := "Extra", type := .bare (.text "colour") }
    let fields := [size, due, note, extra]
    let values : Entries :=
      [("size", .int 5), ("due", .text "2024-02-29"), ("note", .text ""), ("extra", .list [])]
    ∃ s r data, compile false fields = .ok s ∧ s.validate values = .ok r ∧
      r.data = some data ∧
      data = [("size", .text "5"), ("due", .date ⟨2024, 2, 29, by decide⟩), ("extra", .list [])] ∧
      s.validate data = .ok r := by
  intro size due note extra fields values
  have h : (compile false fields >>= (·.validate values)) = .ok ⟨true, [], some
      [("size", .text "5"), ("due", .date ⟨2024, 2, 29, by decide⟩), ("extra", .list [])]⟩ := by
    decide +kernel
  obtain ⟨s, hc, hr⟩ := bind_eq_ok.1 h
  obtain ⟨data, hd, ha⟩ := data_validates_to_itself hc hr rfl
  obtain rfl := Option.some.inj hd
  exact ⟨s, _, _, hc, hr, rfl, rfl, ha⟩

end Schema
end Formulary
