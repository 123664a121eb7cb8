/-
  Diagnostics and validators: what the problems of fields say of the schema
  that the fields have.

  * `Lint.rule?_eq`: a rule has a diagnostic iff it asks for more than that a
    value is given, or is not, and still becomes no check;
  * `lint_objects`: there is an error among the diagnostics iff a name is
    repeated or a field is objectionable by itself;
  * `Schema.compiles_strictly`: so these are the fields that have no strict
    schema, and in one that there is nothing is left out.
-/
import Formulary.Proofs.Outcome

namespace Formulary

/-! ## Rules -/

/-- A rule on a field of a declared type has a diagnostic iff it becomes no
    check, and the reasons why there may be neither are the same. -/
theorem Lint.rule?_eq {f : Field} {t : FieldType} (ht : f.type = .declared t) (r : Rule) :
    (Lint.rule? f t r).map (·.isSome) =
      (r.check? f.type).map fun c? => !r.kind.isPresence && c?.isNone := by
  have hk : (TypeTag.declared t).isKey = true := rfl
  have hl : (TypeTag.declared t).toValue.hasLongInt = false := rfl
  unfold Lint.rule? Rule.check? Rule.isUsable
  rw [ht]
  cases hp : r.kind.isPresence with
  | true => rfl
  | false =>
    cases r.kind.appliesTo (.declared t) with
    | false => simp [hk, hl, Except.map]
    | true =>
      cases r.demand? with
      | error e => simp [hk, Except.map]
      | ok d? => cases d? <;> cases r.argument.hasLongInt <;> simp [hk, Except.map]

/-- The diagnostics of rules are errors. -/
theorem Lint.severity_rule? {f : Field} {t : FieldType} {r : Rule} {d : Diagnostic}
    (h : Lint.rule? f t r = .ok (some d)) : d.severity = .error := by
  unfold Lint.rule? at h
  split at h
  · cases h
  split at h
  · cases h
    rfl
  split at h
  · cases h
  · cases h
  · split at h <;> cases h
    rfl

/-- The diagnostics of rules are about rules. -/
theorem Lint.code_rule? {f : Field} {t : FieldType} {r : Rule} {d : Diagnostic}
    (h : Lint.rule? f t r = .ok (some d)) :
    d.code = .incompatibleRule ∨ d.code = .malformedRuleValue := by
  unfold Lint.rule? at h
  split at h
  · cases h
  split at h
  · cases h
    exact .inl rfl
  split at h
  · cases h
  · cases h
  · split at h <;> cases h
    exact .inr rfl

/-- A rule is idle if it asks for more than that a value is given, or is not,
    and becomes no check. -/
def Rule.IsIdle (r : Rule) (t : TypeTag) : Prop :=
  r.kind.isPresence = false ∧ r.check? t = .ok none

theorem Lint.rule?_objects {f : Field} {t : FieldType} (ht : f.type = .declared t) {r : Rule} :
    (∃ d, Lint.rule? f t r = .ok (some d)) ↔ r.IsIdle f.type := by
  have h := Lint.rule?_eq ht r
  unfold Rule.IsIdle
  constructor
  · rintro ⟨d, hd⟩
    rw [hd] at h
    obtain ⟨c?, hc, hn⟩ := map_eq_ok.1 h.symm
    obtain ⟨hk, hc?⟩ : r.kind.isPresence = false ∧ c? = none := by simpa using hn
    exact ⟨hk, hc? ▸ hc⟩
  · rintro ⟨hk, hc⟩
    rw [hc, hk] at h
    obtain ⟨d?, hd, hs⟩ := map_eq_ok.1 h
    obtain ⟨d, rfl⟩ := Option.isSome_iff_exists.1 hs
    exact ⟨d, hd⟩

/-! ## Fields -/

/-- What a field by itself is objected to for. -/
inductive Field.IsObjectionable (f : Field) : Prop where
  /-- Its name is no name. -/
  | misnamed (h : Lint.nameProblem? f.name ≠ none)
  /-- Its type is not declared. -/
  | untyped (h : ∀ t, f.type ≠ .declared t)
  /-- Its type is declared, and one of its rules is idle. -/
  | idle {t : FieldType} {r : Rule} (ht : f.type = .declared t) (hr : r ∈ f.rules)
    (h : r.IsIdle f.type)

theorem Field.declared_of_unobjectionable {f : Field} (h : ¬f.IsObjectionable) :
    ∃ t, f.type = .declared t := by
  by_contra hu
  exact h (.untyped (not_exists.1 hu))

/-- Whether there is an error among diagnostics. -/
def HasError (ds : List Diagnostic) : Prop := ∃ d ∈ ds, d.severity = .error

instance (ds : List Diagnostic) : Decidable (HasError ds) :=
  inferInstanceAs (Decidable (∃ d ∈ ds, d.severity = .error))

theorem hasError_append {ds ds' : List Diagnostic} :
    HasError (ds ++ ds') ↔ HasError ds ∨ HasError ds' := by
  simp only [HasError, List.mem_append, or_and_right, exists_or]

theorem not_hasError_toList {d? : Option Diagnostic}
    (h : ∀ d, d? = some d → d.severity = .warning) : ¬HasError d?.toList := by
  rintro ⟨d, hd, he⟩
  have hw := h d (Option.mem_toList.1 hd)
  rw [he] at hw
  cases hw

namespace Lint
variable {f : Field} {ds : List Diagnostic}

theorem name?_eq_some {d : Diagnostic} (h : name? f = some d) :
    d.code = .invalidFieldName ∧ d.fieldName = f.name ∧ nameProblem? f.name ≠ none := by
  obtain ⟨m, hm, rfl⟩ := Option.map_eq_some_iff.1 h
  exact ⟨rfl, rfl, by simp [hm]⟩

theorem name?_objects : HasError (name? f).toList ↔ nameProblem? f.name ≠ none := by
  unfold name?
  cases nameProblem? f.name with
  | none => simp [HasError]
  | some m => simp [HasError]

theorem severity_presence? {d : Diagnostic} (h : presence? f = some d) :
    d.severity = .warning := by
  unfold presence? at h
  split at h <;> cases h
  rfl

theorem code_presence? {d : Diagnostic} (h : presence? f = some d) :
    d.code = .redundantOptional := by
  unfold presence? at h
  split at h <;> cases h
  rfl

theorem severity_choices? {t : FieldType} {d : Diagnostic} (h : choices? f t = some d) :
    d.severity = .warning := by
  unfold choices? at h
  split at h <;> cases h
  rfl

theorem code_choices? {t : FieldType} {d : Diagnostic} (h : choices? f t = some d) :
    d.code = .missingOptions := by
  unfold choices? at h
  split at h <;> cases h
  rfl

theorem rules_object {t : FieldType} (ht : f.type = .declared t)
    (h : f.rules.filterMapM (rule? f t) = .ok ds) :
    HasError ds ↔ ∃ r ∈ f.rules, r.IsIdle f.type := by
  constructor
  · rintro ⟨d, hd, -⟩
    obtain ⟨r, hr, hrd⟩ := (mem_filterMapM h).1 hd
    exact ⟨r, hr, (rule?_objects ht).1 ⟨d, hrd⟩⟩
  · rintro ⟨r, hr, hi⟩
    obtain ⟨d, hd⟩ := (rule?_objects ht).2 hi
    exact ⟨d, (mem_filterMapM h).2 ⟨r, hr, hd⟩, severity_rule? hd⟩

/-- A field has an error among its diagnostics iff it is objectionable. -/
theorem field_objects (h : field f = .ok ds) : HasError ds ↔ f.IsObjectionable := by
  unfold field at h
  split at h
  case h_1 v ht =>
    -- a type that is not declared is an error whatever else the field has
    have ho : f.IsObjectionable := .untyped fun t => by simp [ht]
    split at h
    · cases h
    · cases h
      exact ⟨fun _ => ho, fun _ => hasError_append.2 (.inr ⟨_, List.mem_singleton_self _, rfl⟩)⟩
  case h_2 t ht =>
    obtain ⟨rules, hr, h⟩ := bind_eq_ok.1 h
    cases h
    have hp := not_hasError_toList fun d hd => severity_presence? (f := f) hd
    have hc := not_hasError_toList fun d hd => severity_choices? (f := f) (t := t) hd
    rw [hasError_append, hasError_append, hasError_append, name?_objects, rules_object ht hr]
    constructor
    · rintro (((hn | ⟨r, hr, hi⟩) | h) | h)
      · exact .misnamed hn
      · exact .idle ht hr hi
      · exact absurd h hp
      · exact absurd h hc
    · intro ho
      cases ho with
      | misnamed hn => exact .inl (.inl (.inl hn))
      | untyped hu => exact absurd ht (hu t)
      | idle _ hr hi => exact .inl (.inl (.inr ⟨_, hr, hi⟩))

/-! ## Names -/

/-- There is a diagnostic of repeats iff there are any. -/
theorem duplicates_object {names : List String} : HasError (duplicates names) ↔ ¬names.Nodup := by
  constructor
  · rintro ⟨d, hd, -⟩ hn
    rw [Schema.duplicates_of_nodup hn] at hd
    cases hd
  · intro hn
    obtain ⟨n, hc⟩ := not_forall.1 (mt List.nodup_iff_count.2 hn)
    have hc : 1 < names.count n := Nat.lt_of_not_le hc
    have hm : n ∈ names := List.count_pos_iff.1 (by omega)
    exact ⟨_, List.mem_filterMap.2 ⟨n, List.mem_eraseDups.2 hm, if_pos hc⟩, rfl⟩

theorem code_duplicates {names : List String} {d : Diagnostic} (h : d ∈ duplicates names) :
    d.code = .duplicateName := by
  obtain ⟨n, -, hd⟩ := List.mem_filterMap.1 h
  dsimp only at hd
  split at hd <;> cases hd
  rfl

end Lint

/-! ## Forms -/

variable {fields : List Field} {ds : List Diagnostic} {s : Schema}

/-- The diagnostics of fields are those of repeated names and of each field by
    itself. -/
theorem mem_lint (h : lint fields = .ok ds) {d : Diagnostic} :
    d ∈ ds ↔ d ∈ Lint.duplicates (fields.map (·.name)) ∨
      ∃ f ∈ fields, ∃ es, Lint.field f = .ok es ∧ d ∈ es := by
  obtain ⟨each, he, hds⟩ := bind_eq_ok.1 h
  cases hds
  have hall := mapM_eq_ok.1 he
  rw [List.mem_append, List.mem_flatten]
  refine or_congr_right ⟨?_, ?_⟩
  · rintro ⟨es, hes, hd⟩
    obtain ⟨f, hf, hfs⟩ := forall₂_mem_left hall.flip es hes
    exact ⟨f, hf, es, hfs, hd⟩
  · rintro ⟨f, hf, es, hfs, hd⟩
    obtain ⟨es', hes, hfs'⟩ := forall₂_mem_left hall f hf
    cases hfs.symm.trans hfs'
    exact ⟨es, hes, hd⟩

theorem field_of_lint (h : lint fields = .ok ds) : ∀ f ∈ fields, ∃ es, Lint.field f = .ok es := by
  intro f hf
  obtain ⟨each, he, -⟩ := bind_eq_ok.1 h
  obtain ⟨es, -, hes⟩ := forall₂_mem_left (mapM_eq_ok.1 he) f hf
  exact ⟨es, hes⟩

/-- **There is an error among the diagnostics** iff a name is repeated or a field
    is objectionable by itself. -/
theorem lint_objects (h : lint fields = .ok ds) :
    HasError ds ↔ ¬(fields.map (·.name)).Nodup ∨ ∃ f ∈ fields, f.IsObjectionable := by
  obtain ⟨each, he, hds⟩ := bind_eq_ok.1 h
  cases hds
  rw [hasError_append, Lint.duplicates_object]
  refine or_congr_right ?_
  have hall := mapM_eq_ok.1 he
  clear h he
  induction hall with
  | nil => simp [HasError]
  | cons hf _ ih =>
    rw [List.flatten_cons, hasError_append, List.exists_mem_cons_iff, Lint.field_objects hf]
    exact or_congr_right ih

/-! ## Checks -/

/-- Whether the checks of a validator are those of rules: one for each rule that
    asks for more than that a value is given, or is not, in order. -/
def Validator.Enforces (v : Validator) (rules : List Rule) : Prop :=
  List.Forall₂ (fun r c => c.kind = r.kind ∧ c.message = r.message ∧
      r.demand? = .ok (some c.demand))
    (rules.filter fun r => !r.kind.isPresence) v.checks

/-- A field without idle rules has a check for each that is more than presence. -/
theorem Field.enforces {f : Field} {v : Validator} (h : f.compile = .ok v)
    (hi : ∀ r ∈ f.rules, ¬r.IsIdle f.type) : v.Enforces f.rules := by
  obtain ⟨cs, hcs, -, rfl⟩ := compile_eq_ok h
  have hk : ∀ r ∈ f.rules, r.check? f.type = .ok none ↔ (!r.kind.isPresence) = false := by
    intro r hr
    cases hp : r.kind.isPresence with
    | true => simp [Rule.check?, hp]
    | false => simpa using fun hc => hi r hr ⟨hp, hc⟩
  refine (forall₂_filter_of_filterMapM hcs hk).imp fun r c hc => ?_
  obtain ⟨-, -, d, hd, rfl⟩ := Rule.check?_some hc
  exact ⟨rfl, rfl, hd⟩

/-- A field of a declared type that has diagnostics has a validator. -/
theorem Field.compile_of_lint {f : Field} {t : FieldType} (ht : f.type = .declared t)
    (h : Lint.field f = .ok ds) : ∃ v, f.compile = .ok v := by
  cases hv : f.compile with
  | ok v => exact ⟨v, rfl⟩
  | error e =>
    obtain ⟨r, hr, hu⟩ := (compile_faults ht).1 ⟨e, hv⟩
    obtain ⟨e', he'⟩ := Rule.check?_faults.2 (ht ▸ hu)
    have hl := Lint.rule?_eq ht r
    rw [ht, he'] at hl
    -- the linter reads the rule as well, and faults like the compiler
    obtain ⟨e'', hf⟩ := filterMapM_faults.2 ⟨r, hr, e', map_eq_error.1 hl⟩
    unfold Lint.field at h
    rw [ht] at h
    obtain ⟨_, hok, -⟩ := bind_eq_ok.1 h
    rw [hf] at hok
    cases hok

namespace Schema

/-- A strict schema is refused with the errors among the diagnostics. -/
theorem compile_strict (h : lint fields = .ok ds) :
    compile true fields =
      if HasError ds then .error (.diagnosed (ds.filter (·.severity = .error)))
      else ofFields fields := by
  have hb : (ds.filter (·.severity = .error)).isEmpty = true ↔ ¬HasError ds := by
    simp [HasError]
  unfold compile
  rw [if_pos rfl, h]
  by_cases he : HasError ds
  · have hf := Bool.eq_false_iff.2 (mt hb.1 (not_not.2 he))
    simp [he, hf, bind, Except.bind, throw, throwThe, MonadExceptOf.throw]
  · simp [he, hb.2 he, bind, Except.bind]

/-- Fields without errors among their diagnostics have a schema. -/
theorem ofFields_of_lint (h : lint fields = .ok ds) (hn : ¬HasError ds) :
    ∃ s, ofFields fields = .ok s := by
  have ho := mt (lint_objects h).2 hn
  have hd : ∀ f ∈ fields, ∃ t, f.type = .declared t := fun f hf =>
    Field.declared_of_unobjectionable fun h => ho (.inr ⟨f, hf, h⟩)
  have hv : ∀ f ∈ fields, ∃ v, f.compile = .ok v := by
    intro f hf
    obtain ⟨t, ht⟩ := hd f hf
    obtain ⟨es, hes⟩ := field_of_lint h f hf
    exact Field.compile_of_lint ht hes
  cases hs : ofFields fields with
  | ok s => exact ⟨s, rfl⟩
  | error e =>
    obtain ⟨f, hf, hu⟩ := (compile_faults hd).1 ⟨e, hs⟩
    obtain ⟨t, ht⟩ := hd f hf
    obtain ⟨e, he⟩ := (Field.compile_faults ht).2 hu
    obtain ⟨v, hv⟩ := hv f hf
    rw [he] at hv
    cases hv

/-- **Fields are compiled strictly unless they are objected to.**  What they are
    refused for is a repeated name, a name that is none, a type that is not
    declared or an idle rule, and the refusal lists the errors among their
    diagnostics.  A strict schema is the one that there is otherwise; it has a
    validator for each field, and each validator a check for each rule that
    asks for more than that a value is given, or is not. -/
theorem compiles_strictly (h : lint fields = .ok ds) :
    ((∃ errors, compile true fields = .error (.diagnosed errors)) ↔
      ¬(fields.map (·.name)).Nodup ∨ ∃ f ∈ fields, f.IsObjectionable) ∧
    (∀ e, compile true fields = .error e → e = .diagnosed (ds.filter (·.severity = .error))) ∧
    ∀ s, compile true fields = .ok s → compile false fields = .ok s ∧
      Made (fun f v => f.compile = .ok v ∧ v.Enforces f.rules) fields s.validators := by
  rw [← lint_objects h, compile_strict h]
  by_cases he : HasError ds
  · rw [if_pos he]
    refine ⟨⟨fun _ => he, fun _ => ⟨_, rfl⟩⟩, fun e hc => (Except.error.inj hc).symm, ?_⟩
    intro s hs
    cases hs
  · obtain ⟨s, hs⟩ := ofFields_of_lint h he
    rw [if_neg he, hs]
    refine ⟨⟨?refused, fun h => absurd h he⟩, ?error, ?strict⟩
    case refused =>
      rintro ⟨errors, h⟩
      cases h
    case error =>
      intro e h
      cases h
    case strict =>
      intro s' hs'
      cases hs'
      refine ⟨compile_eq_ok.2 ⟨hs, fun h => by cases h⟩, ?_⟩
      obtain ⟨hn, ho⟩ := not_or.1 (mt (lint_objects h).2 he)
      obtain ⟨vs, hvs, hv⟩ := ofFields_eq_ok.1 hs
      -- no name is repeated, so the validators are those that the fields have made
      rw [hv, Entries.ofList_eq_self (hvs.keys_eq ▸ not_not.1 hn)]
      have hi : ∀ f ∈ fields, ∀ r ∈ f.rules, ¬r.IsIdle f.type := by
        intro f hf r hr hi
        obtain ⟨t, ht⟩ := Field.declared_of_unobjectionable fun h => ho ⟨f, hf, h⟩
        exact ho ⟨f, hf, .idle ht hr hi⟩
      refine ((List.forall₂_and_left _ _).2 ⟨hi, hvs⟩).imp ?_
      rintro f p ⟨hi, hp, hc⟩
      exact ⟨hp, hc, Field.enforces hc hi⟩

/-- A bound on a text is an idle rule, for which the fields are refused; a bound
    on a number is a check. -/
theorem compiles_strictly_bounded :
    let asked : Rule := ⟨.required, .null, "How old are you?"⟩
    let adult : Rule := ⟨.min, .int 18, "Too young"⟩
    let age (t : FieldType) : Field :=
      { name := "age", label := "Age", type := .declared t, rules := [asked, adult] }
    (∃ errors, compile true [age .text] = .error (.diagnosed errors) ∧
        errors.map (·.message) = ["'min' rule has no effect on a text field"]) ∧
      ∃ s v, compile true [age .number] = .ok s ∧ s.validators = [("age", v)] ∧
        v.checks.map (·.kind) = [.min] := by
  intro asked adult age
  have hl : lint [age .text] = .ok [⟨"age", .incompatibleRule,
      "'min' rule has no effect on a text field", .error⟩] := by decide +kernel
  have hl' : lint [age .number] = .ok [] := by decide +kernel
  obtain ⟨refused, error, -⟩ := compiles_strictly hl
  obtain ⟨errors, he⟩ := refused.2 (.inr ⟨_, List.mem_singleton_self _,
    .idle rfl (List.mem_cons_of_mem _ List.mem_cons_self) ⟨rfl, rfl⟩⟩)
  refine ⟨⟨errors, he, ?_⟩, ?_⟩
  · cases error _ he
    rfl
  · obtain ⟨s, hs⟩ : ∃ s, compile true [age .number] = .ok s :=
      ⟨_, (compile_strict hl').trans rfl⟩
    obtain ⟨-, -, strict⟩ := compiles_strictly hl'
    obtain ⟨⟨n, v⟩, vs, ⟨rfl, -, hc⟩, hvs, hv⟩ := List.forall₂_cons_left_iff.1 (strict s hs).2
    obtain rfl := List.forall₂_nil_left_iff.1 hvs
    exact ⟨s, v, hs, hv, map_eq_of_forall₂ (hc.imp fun r c h => h.1)⟩

end Schema
end Formulary
