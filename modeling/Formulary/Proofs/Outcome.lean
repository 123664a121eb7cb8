/-
  The result for the values of a form, name by name.

  * `Schema.validate_eq_ok`: the result is made up of the outcomes of the
    names, each for its own value;
  * `Schema.MadeUp` is what that says of a result, and `madeUp_summary` that it
    is so;
  * `compile_perm` and `validate_perm`: fields in another order make the same
    validators, and these the same result, in another order;
  * `validates_name_by_name` puts these together.
-/
import Formulary.Proofs.Schema
import Mathlib.Data.List.Perm.Basic

namespace Formulary.Schema

variable {s : Schema} {values : Entries} {r : Result} {o : String → Outcome}

/-! ## The outcomes of names -/

/-- Whether these are the outcomes of values, each of the value of its name. -/
def Outcomes (s : Schema) (values : Entries) (o : String → Outcome) : Prop :=
  ∀ name ∈ s.names, s.validateField name (valueOf values name) = .ok (o name)

theorem validateField_of_mem {p : String × Validator} (hp : p ∈ s.validators) (raw : Value) :
    s.validateField p.1 raw = p.2.validate raw := by
  have hg : s.get? p.1 = some p.2 := (Entries.lookup_eq_some_iff s.distinct).2 hp
  rw [validateField, hg]

theorem outcomes_eq_ok {os : List (String × Outcome)} : s.outcomes values = .ok os ↔
    List.Forall₂ (fun p q => q.1 = p.1 ∧ p.2.validate (valueOf values p.1) = .ok q.2)
      s.validators os := by
  have each : ∀ (p : String × Validator) (q : String × Outcome),
      (p.2.validate (valueOf values p.1)).map (p.1, ·) = .ok q ↔
        q.1 = p.1 ∧ p.2.validate (valueOf values p.1) = .ok q.2 := by
    rintro p ⟨n, x⟩
    rw [map_eq_ok]
    constructor
    · rintro ⟨x', hx, h⟩
      cases h
      exact ⟨rfl, hx⟩
    · rintro ⟨rfl, hx⟩
      exact ⟨x, hx, rfl⟩
  rw [outcomes, mapM_eq_ok]
  exact ⟨fun h => h.imp fun p q => (each p q).1, fun h => h.imp fun p q => (each p q).2⟩

theorem outcomes_eq_map : s.outcomes values = .ok (s.names.map fun n => (n, o n)) ↔
    s.Outcomes values o := by
  rw [outcomes_eq_ok, names, Entries.keys, List.map_map, List.forall₂_map_right_iff,
    List.forall₂_same]
  simp only [Outcomes, names, Entries.keys, List.forall_mem_map]
  refine forall₂_congr fun p hp => ?_
  rw [validateField_of_mem hp]
  simp

/-- **The result is made up of the outcomes of names**, in the order of the
    schema. -/
theorem validate_eq_ok : s.validate values = .ok r ↔
    ∃ o, s.Outcomes values o ∧ r = summary (s.names.map fun n => (n, o n)) := by
  rw [validate, map_eq_ok]
  constructor
  · rintro ⟨os, hos, rfl⟩
    have hk : Entries.keys os = s.names :=
      map_eq_of_forall₂ ((outcomes_eq_ok.1 hos).imp fun _ _ h => h.1)
    have hn : (Entries.keys os).Nodup := hk ▸ s.distinct
    have heq := Entries.eq_map_keys hn (.accepted .null)
    rw [hk] at heq
    exact ⟨_, outcomes_eq_map.1 (heq ▸ hos), congrArg summary heq⟩
  · rintro ⟨o, ho, rfl⟩
    exact ⟨_, outcomes_eq_map.2 ho, rfl⟩

/-- A result depends on the values of the names of the schema only. -/
theorem validate_of_agree {values' : Entries} (h : s.validate values = .ok r)
    (hv : ∀ n ∈ s.names, valueOf values' n = valueOf values n) : s.validate values' = .ok r := by
  obtain ⟨o, ho, rfl⟩ := validate_eq_ok.1 h
  refine validate_eq_ok.2 ⟨o, fun n hn => ?_, rfl⟩
  rw [hv n hn]
  exact ho n hn

/-! ## What the outcomes make up -/

/-- Whether a result is made up of outcomes of names.  It has an error for each
    name that is turned down, in order, and is valid if there is none; then it
    has data, which is what each name is taken as, nothing left out.  Errors
    and messages are found by name. -/
structure MadeUp (s : Schema) (o : String → Outcome) (r : Result) : Prop where
  errors : r.errors = s.names.filterMap fun n => (o n).error?
  named : ∀ n ∈ s.names, ∀ e, (o n).error? = some e → e.fieldName = n
  once : (r.errors.map (·.fieldName)).Nodup
  valid : r.isValid = true ↔ r.errors = []
  present : r.data.isSome = true ↔ r.errors = []
  data : ∀ data, r.data = some data → data =
    s.names.filterMap fun n => if (o n).value = .null then none else some (n, (o n).value)
  error? : ∀ n ∈ s.names, r.error? n = (o n).error?
  unnamed : ∀ n, n ∉ s.names → r.error? n = none
  message : ∀ n, r.messages.lookup n = (r.error? n).map (·.message)

theorem fieldName_of_error? (hs : s.OfFields) (ho : s.Outcomes values o) {n : String}
    (hn : n ∈ s.names) {e : FieldError} (he : (o n).error? = some e) : e.fieldName = n := by
  obtain ⟨p, hp, rfl⟩ := List.mem_map.1 hn
  obtain ⟨f, hf, hc⟩ := hs p hp
  have hv := ho p.1 hn
  rw [validateField_of_mem hp] at hv
  have hr : o p.1 = .rejected e := by
    cases hop : o p.1 with
    | accepted v => rw [hop] at he; cases he
    | rejected e' => rw [hop] at he; exact congrArg _ (Option.some.inj he)
  rw [hr] at hv
  exact (Field.of_rejected hc hv).1.trans hf

section
variable {names : List String} {error? : String → Option FieldError}
  (hn : ∀ n ∈ names, ∀ e, error? n = some e → e.fieldName = n)
include hn

/-- Errors stand under the names that have one. -/
theorem map_fieldName_filterMap :
    (names.filterMap error?).map (·.fieldName) = names.filter fun n => (error? n).isSome := by
  induction names with
  | nil => rfl
  | cons m names ih =>
    have ih := ih fun n hm => hn n (List.mem_cons_of_mem m hm)
    cases he : error? m with
    | none => rw [List.filterMap_cons_none he, List.filter_cons_of_neg (by simp [he]), ih]
    | some e =>
      have hme := hn m List.mem_cons_self e he
      rw [List.filterMap_cons_some he, List.filter_cons_of_pos (by simp [he]), List.map_cons, ih,
        hme]

theorem find?_fieldName_filterMap (n : String) :
    (names.filterMap error?).find? (·.fieldName = n) = if n ∈ names then error? n else none := by
  induction names with
  | nil => rfl
  | cons m names ih =>
    have ih := ih fun n hm => hn n (List.mem_cons_of_mem m hm)
    cases he : error? m with
    | none =>
      rw [List.filterMap_cons_none he, ih]
      by_cases hm : n = m
      · simp [hm, he]
      · simp [hm]
    | some e =>
      have hme := hn m List.mem_cons_self e he
      rw [List.filterMap_cons_some he, List.find?_cons]
      by_cases hm : m = n
      · simp [hme, ← hm, he]
      · simp [hme, hm, Ne.symm hm, ih]

end

/-- Where no name has two errors, all messages are kept. -/
theorem messages_of_nodup (h : (r.errors.map (·.fieldName)).Nodup) :
    r.messages = r.errors.map fun e => (e.fieldName, e.message) := by
  refine Entries.ofList_eq_self ?_
  rw [Entries.keys, List.map_map]
  exact h

/-- A message is found where its error is. -/
theorem lookup_messages (h : (r.errors.map (·.fieldName)).Nodup) (n : String) :
    r.messages.lookup n = (r.error? n).map (·.message) := by
  rw [messages_of_nodup h, Result.error?]
  clear h
  induction r.errors with
  | nil => rfl
  | cons e es ih =>
    rw [List.map_cons, List.lookup_cons, List.find?_cons, ih]
    by_cases he : n = e.fieldName
    · simp [he]
    · simp [Ne.symm he, beq_eq_false_iff_ne.2 he]

theorem errors_summary (names : List String) :
    (summary (names.map fun n => (n, o n))).errors = names.filterMap fun n => (o n).error? :=
  List.filterMap_map

/-- The data that outcomes of names make up, if there is no error. -/
theorem data_summary (names : List String) :
    (summary (names.map fun n => (n, o n))).data =
      if (summary (names.map fun n => (n, o n))).errors = [] then
        some (names.filterMap fun n => if (o n).value = .null then none else some (n, (o n).value))
      else none := by
  have hd : ((names.map fun n => (n, o n)).filter fun x => x.2.value ≠ .null).map
      (fun x => (x.1, x.2.value)) =
      names.filterMap fun n => if (o n).value = .null then none else some (n, (o n).value) := by
    rw [← List.filterMap_eq_map, List.filterMap_filter, List.filterMap_map]
    refine List.filterMap_congr fun n _ => ?_
    by_cases hv : (o n).value = .null <;> simp [hv]
  rw [← hd]
  simp [summary]

theorem madeUp_summary (hs : s.OfFields) (ho : s.Outcomes values o) :
    s.MadeUp o (summary (s.names.map fun n => (n, o n))) := by
  have hn : ∀ n ∈ s.names, ∀ e, (o n).error? = some e → e.fieldName = n :=
    fun n hn e he => fieldName_of_error? hs ho hn he
  have once : ((summary (s.names.map fun n => (n, o n))).errors.map (·.fieldName)).Nodup := by
    rw [errors_summary, map_fieldName_filterMap hn]
    exact List.Nodup.sublist List.filter_sublist s.distinct
  refine ⟨errors_summary _, hn, once, ?_, ?_, ?_, ?_, ?_, lookup_messages once⟩
  · simp [summary]
  · rw [data_summary]
    split <;> simp [*]
  · intro data hd
    rw [data_summary] at hd
    split at hd
    · exact (Option.some.inj hd).symm
    · cases hd
  · intro n h
    rw [Result.error?, errors_summary, find?_fieldName_filterMap hn, if_pos h]
  · intro n h
    rw [Result.error?, errors_summary, find?_fieldName_filterMap hn, if_neg h]

theorem madeUp_of_validate (hs : s.OfFields) (h : s.validate values = .ok r) :
    ∃ o, s.MadeUp o r := by
  obtain ⟨o, ho, rfl⟩ := validate_eq_ok.1 h
  exact ⟨o, madeUp_summary hs ho⟩

/-- The messages of a result stand in the order of the schema. -/
theorem MadeUp.messages_sublist (h : s.MadeUp o r) :
    (Entries.keys r.messages).Sublist s.names := by
  have hk : Entries.keys r.messages = s.names.filter fun n => (o n).error?.isSome := by
    rw [messages_of_nodup h.once, Entries.keys, List.map_map, h.errors]
    exact map_fieldName_filterMap h.named
  rw [hk]
  exact List.filter_sublist

/-! ## Fields in another order -/

theorem duplicates_of_nodup {names : List String} (h : names.Nodup) :
    Lint.duplicates names = [] := by
  rw [Lint.duplicates, List.filterMap_eq_nil_iff]
  intro n _
  have hc : names.count n ≤ 1 := List.nodup_iff_count.1 h n
  rw [if_neg (by omega)]

section
variable {fields fields' : List Field} (hn : (fields.map (·.name)).Nodup)
  (hp : fields'.Perm fields)
include hn hp

/-- Where no name is repeated, each field has its diagnostics to itself. -/
theorem lint_perm {ds : List Diagnostic} (h : lint fields = .ok ds) :
    ∃ ds', lint fields' = .ok ds' ∧ ds'.Perm ds := by
  have hn' : (fields'.map (·.name)).Nodup := (hp.map _).nodup_iff.2 hn
  obtain ⟨each, he, h⟩ := bind_eq_ok.1 h
  obtain ⟨each', he', hp'⟩ := List.perm_comp_forall₂ hp (mapM_eq_ok.1 he)
  refine ⟨_, bind_eq_ok.2 ⟨each', mapM_eq_ok.2 he', rfl⟩, ?_⟩
  rw [← Except.ok.inj h, duplicates_of_nodup hn, duplicates_of_nodup hn']
  exact hp'.flatten

theorem compile_perm {strict : Bool} (h : compile strict fields = .ok s) :
    ∃ s', compile strict fields' = .ok s' ∧ s'.validators.Perm s.validators := by
  obtain ⟨hs, hl⟩ := compile_eq_ok.1 h
  obtain ⟨vs, hvs, hv⟩ := ofFields_eq_ok.1 hs
  obtain ⟨vs', hvs', hp'⟩ := List.perm_comp_forall₂ hp hvs
  -- no name is repeated, so the validators are those that the fields have made
  have hk : (Entries.keys vs).Nodup := hvs.keys_eq ▸ hn
  have hk' : (Entries.keys vs').Nodup := (hp'.map _).nodup_iff.2 hk
  refine ⟨⟨vs', hk'⟩, compile_eq_ok.2 ⟨?_, fun hstrict => ?_⟩, ?_⟩
  · exact ofFields_eq_ok.2 ⟨vs', hvs', (Entries.ofList_eq_self hk').symm⟩
  · obtain ⟨ds, hds, he⟩ := hl hstrict
    obtain ⟨ds', hds', hd⟩ := lint_perm hn hp hds
    exact ⟨ds', hds', fun d hm => he d (hd.mem_iff.1 hm)⟩
  · rw [hv, Entries.ofList_eq_self hk]
    exact hp'

end

/-- Outcomes in another order make up the same verdict, errors and data. -/
theorem summary_perm {os os' : List (String × Outcome)} (h : os'.Perm os) :
    (summary os').isValid = (summary os).isValid ∧
      (summary os').errors.Perm (summary os).errors ∧
      Option.Rel List.Perm (summary os').data (summary os).data := by
  have he : (summary os').errors.Perm (summary os).errors := h.filterMap _
  refine ⟨he.isEmpty_eq, he, ?_⟩
  have hd := (h.filter fun x => x.2.value ≠ .null).map fun x => (x.1, x.2.value)
  have hs := he.isEmpty_eq
  simp only [summary] at hs ⊢
  rw [hs]
  split
  · exact .some hd
  · exact .none

theorem validate_perm {s' : Schema} (hs : s.OfFields) (hp : s'.validators.Perm s.validators)
    (h : s.validate values = .ok r) :
    ∃ r', s'.validate values = .ok r' ∧ r'.isValid = r.isValid ∧
      r'.messages.Perm r.messages ∧ Option.Rel List.Perm r'.data r.data := by
  obtain ⟨o, ho, rfl⟩ := validate_eq_ok.1 h
  have ho' : s'.Outcomes values o := by
    intro n hn
    obtain ⟨p, hm, rfl⟩ := List.mem_map.1 hn
    have hm' := hp.mem_iff.1 hm
    rw [validateField_of_mem hm, ← validateField_of_mem hm']
    exact ho _ (List.mem_map_of_mem hm')
  have hnames : s'.names.Perm s.names := hp.map _
  obtain ⟨hv, he, hd⟩ := summary_perm (hnames.map fun n => (n, o n))
  have once := (madeUp_summary hs ho).once
  have once' := (he.map (·.fieldName)).nodup_iff.2 once
  refine ⟨_, validate_eq_ok.2 ⟨o, ho', rfl⟩, hv, ?_, hd⟩
  rw [messages_of_nodup once, messages_of_nodup once']
  exact he.map _

/-! ## Name by name -/

/-- **Names are validated each by itself, and all or nothing is taken.**  A
    result is made up of the outcomes of the names of the schema.  What stands
    under other names has no effect; another value under one name changes the
    outcome of no other; and fields in another order, where no name is
    repeated, give the same verdict, the same messages and the same data, but
    for their order. -/
theorem validates_name_by_name {fields : List Field} {strict : Bool}
    (hc : compile strict fields = .ok s) (h : s.validate values = .ok r) :
    ∃ o, s.Outcomes values o ∧ s.MadeUp o r ∧
      (∀ values', (∀ n ∈ s.names, valueOf values' n = valueOf values n) →
        s.validate values' = .ok r) ∧
      (∀ name values' r', (∀ n ∈ s.names, n ≠ name → valueOf values' n = valueOf values n) →
        s.validate values' = .ok r' →
        ∃ o', s.Outcomes values' o' ∧ s.MadeUp o' r' ∧ ∀ n ∈ s.names, n ≠ name → o' n = o n) ∧
      ((fields.map (·.name)).Nodup → ∀ fields', fields'.Perm fields →
        ∃ s' r', compile strict fields' = .ok s' ∧ s'.validate values = .ok r' ∧
          r'.isValid = r.isValid ∧ r'.messages.Perm r.messages ∧
          Option.Rel List.Perm r'.data r.data) := by
  have hs := ofFields_of_compile hc
  obtain ⟨o, ho, rfl⟩ := validate_eq_ok.1 h
  refine ⟨o, ho, madeUp_summary hs ho, ?others, ?one, ?order⟩
  case others =>
    exact fun values' hv => validate_of_agree h hv
  case one =>
    intro name values' r' hv h'
    obtain ⟨o', ho', rfl⟩ := validate_eq_ok.1 h'
    refine ⟨o', ho', madeUp_summary hs ho', fun n hn hne => ?_⟩
    have hsame : (.ok (o' n) : Except Fault Outcome) = .ok (o n) := by
      rw [← ho n hn, ← hv n hn hne, ho' n hn]
    exact Except.ok.inj hsame
  case order =>
    intro hn fields' hp
    obtain ⟨s', hc', hp'⟩ := compile_perm hn hp hc
    obtain ⟨r', hr', hsame⟩ := validate_perm hs hp' h
    exact ⟨s', r', hc', hr', hsame⟩

/-- An answer that nothing asks for is passed over, and the question that is not
    answered is the one with a message, wherever it stands. -/
theorem validates_name_by_name_reordered :
    let who : Field :=
      { name := "who", label := "Name", type := .declared .text,
        rules := [⟨.required, .null, "Who are you?"⟩] }
    let age : Field := { name := "age", label := "Age", type := .declared .number }
    let values : Entries := [("age", .text "42"), ("colour", .text "red")]
    ∃ s r, compile false [who, age] = .ok s ∧ s.validate values = .ok r ∧
      r.errors = [⟨"who", "required", "Who are you?", .null⟩] ∧
      s.validate [("age", .text "42")] = .ok r ∧
      ∃ s' r', compile false [age, who] = .ok s' ∧ s'.validate values = .ok r' ∧
        r'.messages.Perm r.messages := by
  intro who age values
  have hc : compile false [who, age] = .ok _ := rfl
  have hr : ∀ s, compile false [who, age] = .ok s → s.validate values =
      .ok ⟨false, [⟨"who", "required", "Who are you?", .null⟩], none⟩ := by
    intro s hs
    obtain rfl := Except.ok.inj (hc.symm.trans hs)
    decide +kernel
  have h := hr _ hc
  obtain ⟨o, -, -, others, -, order⟩ := validates_name_by_name hc h
  obtain ⟨s', r', hs', hr', -, hm, -⟩ :=
    order (by decide) [age, who] (List.Perm.swap _ _ _)
  exact ⟨_, _, hc, h, rfl, others _ (by decide), s', r', hs', hr', hm⟩

end Formulary.Schema
