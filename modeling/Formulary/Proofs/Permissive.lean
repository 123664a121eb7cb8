/-
  Compiling without strictness, and looking for problems: both get over whatever
  is wrong with a rule, but for what cannot even be told to be wrong.

  * `Rule.demand?_faults`: a rule has no answer to what it demands iff its
    pattern is out of bounds;
  * `lint_faults`: there are diagnostics iff there is a schema;
  * `Field.compile_withoutMalformed`: a rule with a malformed argument might as
    well not be there;
  * `Schema.compiles_permissively` puts these together.
-/
import Formulary.Proofs.Lint

namespace Formulary

/-! ## Rules -/

/-- Whether the argument of a rule is a pattern that is neither read nor told to
    be malformed: it counts to a number that is too large or too long, or has
    flags that contradict each other. -/
def Rule.IsOutOfBounds (r : Rule) : Prop :=
  r.kind = .pattern ∧ ∃ s e, r.argument = .text s ∧ Pattern.read s = .error e ∧ e ≠ .malformed

/-- Whether a rule asks for more than that a value is given, or is not, with an
    argument that says nothing. -/
def Rule.IsMalformed (r : Rule) : Prop := r.kind.isPresence = false ∧ r.demand? = .ok none

namespace Rule
variable {r : Rule} {t : TypeTag}

theorem pattern?_faults {s : String} :
    (∃ e, pattern? s = .error e) ↔ ∃ e, Pattern.read s = .error e ∧ e ≠ .malformed := by
  unfold pattern?
  cases Pattern.read s with
  | ok p => simp
  | error e => cases e <;> simp

/-- A rule has no answer to what it demands iff its pattern is out of bounds. -/
theorem demand?_faults : (∃ e, r.demand? = .error e) ↔ r.IsOutOfBounds := by
  unfold demand? IsOutOfBounds
  cases hk : r.kind with
  | pattern =>
    cases ha : r.argument with
    | text s => simpa [map_eq_error] using pattern?_faults
    | _ => simp
  | _ => simp

/-- What cannot be read about a rule that takes effect. -/
theorem isUnreadable_iff : r.IsUnreadable t ↔ r.kind.appliesTo t = true ∧
    (r.IsOutOfBounds ∨ r.IsMalformed ∧ r.argument.hasLongInt = true) := by
  unfold IsUnreadable IsMalformed
  rw [demand?_faults]
  constructor
  · rintro ⟨hp, ha, hb | ⟨hn, hl⟩⟩
    · exact ⟨ha, .inl hb⟩
    · exact ⟨ha, .inr ⟨⟨hp, hn⟩, hl⟩⟩
  · rintro ⟨ha, hb | ⟨⟨hp, hn⟩, hl⟩⟩
    · refine ⟨?_, ha, .inl hb⟩
      rw [hb.1]
      rfl
    · exact ⟨hp, ha, .inr ⟨hn, hl⟩⟩

instance : DecidablePred IsMalformed := fun r =>
  match h : r.demand? with
  | .ok none => decidable_of_iff (r.kind.isPresence = false) (by simp [IsMalformed, h])
  | .ok (some _) | .error _ => .isFalse (by simp [IsMalformed, h])

/-- A malformed rule that is read becomes no check. -/
theorem IsMalformed.check?_eq (h : r.IsMalformed) {c? : Option Check}
    (hc : r.check? t = .ok c?) : c? = none := by
  cases c? with
  | none => rfl
  | some c =>
    obtain ⟨-, -, d, hd, -⟩ := check?_some hc
    rw [h.2] at hd
    cases hd

end Rule

/-! ## Diagnostics -/

theorem Lint.field_faults {f : Field} {t : FieldType} (ht : f.type = .declared t) :
    (∃ e, Lint.field f = .error e) ↔ f.IsUnreadable := by
  have hf : (∃ e, Lint.field f = .error e) ↔ ∃ e, f.rules.filterMapM (rule? f t) = .error e := by
    refine exists_congr fun e => ?_
    unfold Lint.field
    rw [ht]
    simp [bind_eq_error, pure, Except.pure]
  have hr : ∀ r, (∃ e, rule? f t r = .error e) ↔ ∃ e, r.check? f.type = .error e := by
    intro r
    refine exists_congr fun e => ?_
    rw [← map_eq_error (f := Option.isSome), rule?_eq ht, map_eq_error]
  rw [hf, filterMapM_faults, Field.IsUnreadable]
  refine exists_congr fun r => and_congr_right fun _ => ?_
  rw [hr, ht, Rule.check?_faults]

/-- **Fields of declared types have diagnostics** unless one of their rules
    cannot be read. -/
theorem lint_faults {fields : List Field} (hd : ∀ f ∈ fields, ∃ t, f.type = .declared t) :
    (∃ e, lint fields = .error e) ↔ ∃ f ∈ fields, f.IsUnreadable := by
  have hm : (∃ e, lint fields = .error e) ↔ ∃ e, fields.mapM Lint.field = .error e := by
    refine exists_congr fun e => ?_
    unfold lint
    simp [bind_eq_error, pure, Except.pure]
  rw [hm, mapM_faults]
  refine exists_congr fun f => and_congr_right fun hf => ?_
  obtain ⟨t, ht⟩ := hd f hf
  exact Lint.field_faults ht

/-! ## Rules without effect -/

/-- A field without its malformed rules. -/
def Field.withoutMalformed (f : Field) : Field :=
  { f with rules := f.rules.filter fun r => ¬r.IsMalformed }

/-- **A malformed rule might as well not be there**, where it is read at all. -/
theorem Field.compile_withoutMalformed {f : Field} {v : Validator} (h : f.compile = .ok v) :
    f.withoutMalformed.compile = .ok v := by
  obtain ⟨cs, hcs, hk, rfl⟩ := compile_eq_ok h
  have hchecks : f.withoutMalformed.checks = .ok cs := by
    refine filterMapM_filter hcs fun r _ c? hr hc => ?_
    exact Rule.IsMalformed.check?_eq (by simpa using hr) hc
  have hrequired : f.withoutMalformed.requiredMessage = f.requiredMessage := by
    -- a rule that says whether a value has to be given is not malformed
    have hfind : (f.rules.filter fun r => ¬r.IsMalformed).find? (·.kind = .required) =
        f.rules.find? (·.kind = .required) := by
      rw [List.find?_filter]
      refine congrArg (List.find? · f.rules) (funext fun r => ?_)
      by_cases hr : r.kind = .required
      · simp [hr, Rule.IsMalformed, RuleKind.isPresence]
      · simp [hr]
    exact congrArg (Option.map (·.message)) hfind
  refine bind_eq_ok.2 ⟨cs, hchecks, ?_⟩
  rw [← hrequired]
  simp [withoutMalformed, hk]
  rfl

namespace Schema
variable {fields : List Field} {s : Schema}

theorem compile_withoutMalformed (h : compile false fields = .ok s) :
    compile false (fields.map Field.withoutMalformed) = .ok s := by
  obtain ⟨vs, hvs, hs⟩ := ofFields_eq_ok.1 (compile_eq_ok.1 h).1
  refine compile_eq_ok.2 ⟨ofFields_eq_ok.2 ⟨vs, ?_, hs⟩, fun h => by cases h⟩
  refine List.forall₂_map_left_iff.2 (hvs.imp ?_)
  rintro f p ⟨hn, hv⟩
  exact ⟨hn, f.compile_withoutMalformed hv⟩

theorem names_of_compile {strict : Bool} (h : compile strict fields = .ok s) :
    s.names = (fields.map (·.name)).eraseDups := by
  obtain ⟨vs, hvs, hs⟩ := ofFields_eq_ok.1 (compile_eq_ok.1 h).1
  rw [names, hs, Entries.keys_ofList, hvs.keys_eq]

/-- Whether a rule that takes effect has a pattern out of bounds, or is malformed
    by an integer too long to be shown. -/
def HasUnreadable (fields : List Field) : Prop :=
  ∃ f ∈ fields, ∃ r ∈ f.rules, r.kind.appliesTo f.type = true ∧
    (r.IsOutOfBounds ∨ r.IsMalformed ∧ r.argument.hasLongInt = true)

/-- **What is wrong with a rule is got over**, unless it cannot even be told.
    Fields of declared types have a schema, and diagnostics, iff no rule that
    takes effect has a pattern out of bounds or is malformed by an integer too
    long to be shown.  A schema has one validator for each distinct name, and is
    the schema of the fields without their malformed rules. -/
theorem compiles_permissively (hd : ∀ f ∈ fields, ∃ t, f.type = .declared t) :
    ((∃ s, compile false fields = .ok s) ↔ ¬HasUnreadable fields) ∧
      ((∃ ds, lint fields = .ok ds) ↔ ¬HasUnreadable fields) ∧
      ∀ s, compile false fields = .ok s → s.names = (fields.map (·.name)).eraseDups ∧
        compile false (fields.map Field.withoutMalformed) = .ok s := by
  have hu : HasUnreadable fields ↔ ∃ f ∈ fields, f.IsUnreadable := by
    simp only [HasUnreadable, Field.IsUnreadable, Rule.isUnreadable_iff]
  refine ⟨?_, ?_, fun s hs => ⟨names_of_compile hs, compile_withoutMalformed hs⟩⟩
  · rw [hu, ← compile_faults hd, exists_ok_iff]
  · rw [hu, ← lint_faults hd, exists_ok_iff]

/-- A pattern that never closes and a bound that is no number are got over. -/
theorem compiles_permissively_malformed :
    let code : Field :=
      { name := "code", label := "Code", type := .declared .text,
        rules := [⟨.pattern, .text "[", "?"⟩, ⟨.minLength, .int 3, "Too short"⟩] }
    let again : Field :=
      { name := "code", label := "Code", type := .declared .number,
        rules := [⟨.min, .text "many", "Too few"⟩, ⟨.required, .null, "How many?"⟩] }
    let fields := [code, again]
    ∃ s ds, compile false fields = .ok s ∧ lint fields = .ok ds ∧ s.names = ["code"] ∧
      compile false [code.withoutMalformed, again.withoutMalformed] = .ok s ∧
      ds.map (·.code) = [.duplicateName, .malformedRuleValue, .malformedRuleValue] := by
  intro code again fields
  have hc : (compile false fields).map (fun _ => ()) = .ok () := by decide +kernel
  have hl : (lint fields).map (·.map (·.code)) =
      .ok [.duplicateName, .malformedRuleValue, .malformedRuleValue] := by decide +kernel
  obtain ⟨s, hs, -⟩ := map_eq_ok.1 hc
  obtain ⟨ds, hds, hcodes⟩ := map_eq_ok.1 hl
  have hd : ∀ f ∈ fields, ∃ t, f.type = .declared t := by simp [fields, code, again]
  obtain ⟨-, -, made⟩ := compiles_permissively hd
  exact ⟨s, ds, hs, hds, (made s hs).1.trans (by decide), (made s hs).2, hcodes⟩

/-- A pattern that counts to a number that is too large is not got over. -/
theorem count_stops_everything :
    let code : Field :=
      { name := "code", label := "Code", type := .declared .text,
        rules := [⟨.pattern, .text "a\x7b4294967295\x7d", "?"⟩] }
    compile false [code] = .error .numberTooLarge ∧ lint [code] = .error .numberTooLarge := by
  intro code
  have hc : (compile false [code]).map (fun _ => ()) = .error .numberTooLarge := by decide +kernel
  exact ⟨map_eq_error.1 hc, by decide +kernel⟩

end Schema
end Formulary
