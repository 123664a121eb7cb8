/-
  The verdict of a field: what comes of a value, read off the rules.

  * `Rule.isBroken` tells whether a value breaks a rule, `Field.objection?` is
    the rule that a value is turned down by, and `Field.verdict` the outcome;
  * `validate_eq_verdict`: the validator of a field gives its verdict;
  * `Field.validate_faults`: it gives none only of an integer too long to be
    written where text is expected.
-/
import Formulary.Proofs.Domain
import Formulary.Schema

namespace Formulary

/-! ## Broken rules -/

/-- Whether a value does not meet a demand. -/
def Demand.isBroken (p : Demand) (v : Value) : Bool :=
  match p.holds v with
  | .ok b => !b
  | .error _ => false

/-- Whether a value breaks a rule of a field with a tag.  A rule that says only
    whether a value has to be given, that does not apply to the tag, or whose
    argument is unusable is not broken by any value. -/
def Rule.isBroken (r : Rule) (t : TypeTag) (v : Value) : Bool :=
  !r.kind.isPresence && r.kind.appliesTo t &&
    match r.demand? with
    | .ok (some p) => p.isBroken v
    | _ => false

/-- A rule is broken iff the check that it becomes is. -/
theorem Rule.isBroken_eq {r : Rule} {t : TypeTag} {c? : Option Check} (h : r.check? t = .ok c?)
    (v : Value) : r.isBroken t v = c?.any (·.demand.isBroken v) := by
  cases c? with
  | some c =>
    obtain ⟨hk, ha, p, hp, rfl⟩ := check?_some h
    simp [isBroken, hk, ha, hp]
  | none =>
    rcases check?_none h with hk | ha | hp
    · simp [isBroken, hk]
    · simp [isBroken, ha]
    · simp [isBroken, hp]

/-- The first check that is broken is that of the first rule that is. -/
theorem find?_isBroken {t : TypeTag} {rs : List Rule} {cs : List (Option Check)}
    (h : List.Forall₂ (fun r c? => r.check? t = .ok c?) rs cs) (v : Value) :
    ((cs.filterMap id).find? (·.demand.isBroken v)).map (fun c => (c.kind, c.message)) =
      (rs.find? (·.isBroken t v)).map fun r => (r.kind, r.message) := by
  induction h with
  | nil => rfl
  | @cons r c? rs cs hc _ ih =>
    have hb := Rule.isBroken_eq hc v
    cases c? with
    | none => simpa [List.find?_cons, hb] using ih
    | some c =>
      obtain ⟨-, -, p, -, rfl⟩ := Rule.check?_some hc
      cases hp : p.isBroken v <;> simp_all

/-! ## Verdicts -/

namespace Field

/-- The first rule by which a value has to be given. -/
def requirement? (f : Field) : Option Rule := f.rules.find? (·.kind = .required)

/-- The rule that a value of the domain is turned down by, if any: the one by
    which it has to be given, of a box that is not ticked, and else the first
    that it breaks. -/
def objection? (f : Field) (v : Value) : Option Rule :=
  (if Domain.ofTag f.type = .boolean ∧ v = .bool false then f.requirement? else none).or
    (f.rules.find? (·.isBroken f.type v))

/-- The outcome of a value that is taken as another, unless by a rule it is
    turned down. -/
def settle (f : Field) (raw v : Value) : Option Rule → Outcome
  | some r => .rejected ⟨f.name, r.kind.name, r.message, raw⟩
  | none => .accepted v

/-- The outcome of a value for a field. -/
def verdict (f : Field) (raw : Value) : Outcome :=
  if raw.isBlank then f.settle raw .null f.requirement?
  else
    match (Domain.ofTag f.type).coerce raw with
    | .ok v => f.settle raw v (f.objection? v)
    | .error _ =>
      .rejected ⟨f.name, "type", f.label ++ " must be a valid " ++ (Domain.ofTag f.type).name, raw⟩

theorem settle_accepted {f : Field} {raw v w : Value} {r? : Option Rule} :
    f.settle raw v r? = .accepted w ↔ r? = none ∧ v = w := by
  cases r? <;> simp [settle]

theorem settle_rejected {f : Field} {raw v : Value} {r? : Option Rule} {e : FieldError}
    (h : f.settle raw v r? = .rejected e) : e.fieldName = f.name ∧ e.received = raw := by
  cases r? with
  | none => cases h
  | some r => cases h; exact ⟨rfl, rfl⟩

/-- Errors name the field and keep the value as it was given. -/
theorem verdict_rejected {f : Field} {raw : Value} {e : FieldError}
    (h : f.verdict raw = .rejected e) : e.fieldName = f.name ∧ e.received = raw := by
  unfold verdict at h
  split at h
  · exact settle_rejected h
  · split at h
    · exact settle_rejected h
    · cases h; exact ⟨rfl, rfl⟩

end Field

/-! ## Validators of fields -/

theorem Field.compile_eq_ok {f : Field} {v : Validator} (h : f.compile = .ok v) :
    ∃ cs, f.checks = .ok cs ∧ f.type.isKey = true ∧
      v = ⟨f.name, f.label, f.type, .ofTag f.type, cs, f.requiredMessage⟩ := by
  obtain ⟨cs, hcs, h⟩ := bind_eq_ok.1 h
  cases hk : f.type.isKey with
  | false => simp [hk, bind, Except.bind, throw, throwThe, MonadExceptOf.throw] at h
  | true =>
    simp only [hk, Bool.not_true, Bool.false_eq_true, if_false] at h
    cases h
    exact ⟨cs, hcs, rfl, rfl⟩

/-- The checks of a field are those that its rules become. -/
theorem Field.mem_checks {f : Field} {v : Validator} (h : f.compile = .ok v) {c : Check} :
    c ∈ v.checks ↔ ∃ r ∈ f.rules, r.check? f.type = .ok (some c) := by
  obtain ⟨cs, hcs, -, rfl⟩ := compile_eq_ok h
  exact mem_filterMapM hcs

theorem Field.requiredMessage_eq (f : Field) :
    f.requiredMessage = f.requirement?.map (·.message) := rfl

theorem Field.requirement?_kind {f : Field} {r : Rule} (h : f.requirement? = some r) :
    r.kind = .required := by
  simpa using List.find?_some h

/-- Checks that can be made find the first that is broken. -/
theorem Validator.run_eq {v : Validator} {raw value : Value} :
    ∀ {cs : List Check}, (∀ c ∈ cs, ∃ b, c.demand.holds value = .ok b) →
      v.run raw value cs = .ok (((cs.find? (·.demand.isBroken value)).map fun c =>
        (c.kind, c.message)).elim (.accepted value) fun c => v.error c.1.name c.2 raw)
  | [], _ => rfl
  | c :: cs, h => by
    obtain ⟨b, hb⟩ := h c (by simp)
    have hc : c.demand.isBroken value = !b := by rw [Demand.isBroken, hb]
    rw [run, Check.passes, hb, List.find?_cons, hc]
    cases b with
    | true => exact run_eq fun c' hc' => h c' (by simp [hc'])
    | false => rfl

section
variable {f : Field} {v : Validator} {raw value : Value}

/-- The checks of a field turn a value of the domain down by the first rule that
    it breaks. -/
theorem Field.run_checks {cs : List Check} (hcs : f.checks = .ok cs)
    (hv : (Domain.ofTag f.type).Has value) (hn : v.name = f.name) :
    v.run raw value cs =
      .ok (f.settle raw value (f.rules.find? (·.isBroken f.type value))) := by
  have hholds : ∀ c ∈ cs, ∃ b, c.demand.holds value = .ok b := by
    intro c hc
    obtain ⟨r, -, hr⟩ := mem_of_filterMapM hcs hc
    exact Demand.holds_of_fits (Rule.check?_fits hr) hv
  obtain ⟨os, hos, rfl⟩ := filterMapM_eq_ok.1 hcs
  rw [Validator.run_eq hholds, find?_isBroken hos]
  cases f.rules.find? (·.isBroken f.type value) with
  | none => rfl
  | some r => rw [settle, ← hn]; rfl

/-- A value of the domain is turned down by the objection of the field. -/
theorem Field.judge_eq (hf : f.compile = .ok v) (hv : (Domain.ofTag f.type).Has value) :
    v.judge raw value = .ok (f.settle raw value (f.objection? value)) := by
  obtain ⟨cs, hcs, -, rfl⟩ := compile_eq_ok hf
  unfold Validator.judge
  cases hr : f.requirement? with
  | none =>
    simp only [requiredMessage_eq, hr, Option.map_none, objection?, ite_self, Option.none_or]
    exact run_checks hcs hv rfl
  | some r =>
    simp only [requiredMessage_eq, hr, Option.map_some, objection?]
    split
    · rw [Option.some_or, settle, requirement?_kind hr]; rfl
    · rw [Option.none_or]
      exact run_checks hcs hv rfl

/-! ## Each way through a validator -/

theorem Field.validate_blank (hf : f.compile = .ok v) (hb : raw.isBlank = true) :
    v.validate raw = .ok (f.settle raw .null f.requirement?) := by
  obtain ⟨cs, -, -, rfl⟩ := compile_eq_ok hf
  rw [Validator.validate, if_pos hb]
  cases hr : f.requirement? with
  | none => simp [requiredMessage_eq, hr, settle]
  | some r => simp [requiredMessage_eq, hr, settle, requirement?_kind hr, Validator.error]

theorem Field.validate_coerced (hf : f.compile = .ok v) (hb : raw.isBlank = false)
    (hc : (Domain.ofTag f.type).coerce raw = .ok value) :
    v.validate raw = .ok (f.settle raw value (f.objection? value)) := by
  rw [← judge_eq hf (Domain.coerce_has hc)]
  obtain ⟨cs, -, -, rfl⟩ := compile_eq_ok hf
  rw [Validator.validate, if_neg (by simp [hb])]
  simp only [hc]

theorem Field.validate_refused {p : CoercionProblem} (hf : f.compile = .ok v)
    (hb : raw.isBlank = false)
    (hc : (Domain.ofTag f.type).coerce raw = .error (.notCoercible p)) :
    v.validate raw = .ok (.rejected
      ⟨f.name, "type", f.label ++ " must be a valid " ++ (Domain.ofTag f.type).name, raw⟩) := by
  obtain ⟨cs, -, -, rfl⟩ := compile_eq_ok hf
  rw [Validator.validate, if_neg (by simp [hb])]
  simp only [hc]
  rfl

theorem Field.validate_longInt (hf : f.compile = .ok v) (hd : Domain.ofTag f.type = .string)
    (hr : raw.IsLongInt) : v.validate raw = .error .integerTooLong := by
  have hc := Domain.coerce_longInt hr
  obtain ⟨n, rfl, -⟩ := hr
  obtain ⟨cs, -, -, rfl⟩ := compile_eq_ok hf
  rw [Validator.validate, if_neg (by simp [Value.isBlank])]
  simp only [hd, hc]

/-- The validator of a field gives no outcome iff it would have to write an
    integer that is too long. -/
theorem Field.validate_faults (hf : f.compile = .ok v) :
    (∃ e, v.validate raw = .error e) ↔ Domain.ofTag f.type = .string ∧ raw.IsLongInt := by
  refine ⟨fun ⟨e, he⟩ => ?_, fun ⟨hd, hr⟩ => ⟨_, validate_longInt hf hd hr⟩⟩
  cases hb : raw.isBlank with
  | true => rw [validate_blank hf hb] at he; cases he
  | false =>
    cases hc : (Domain.ofTag f.type).coerce raw with
    | ok value => rw [validate_coerced hf hb hc] at he; cases he
    | error e' =>
      rcases Domain.coerce_error hc with ⟨-, hd, hr⟩ | ⟨p, rfl⟩
      · exact ⟨hd, hr⟩
      · rw [validate_refused hf hb hc] at he; cases he

/-- The outcomes that a validator of a field can give. -/
theorem Field.validate_cases {o : Outcome} (hf : f.compile = .ok v) (h : v.validate raw = .ok o) :
    (raw.isBlank = true ∧ o = f.settle raw .null f.requirement?) ∨
    (raw.isBlank = false ∧ ∃ w, (Domain.ofTag f.type).coerce raw = .ok w ∧
      o = f.settle raw w (f.objection? w)) ∨
    (raw.isBlank = false ∧ o = .rejected
      ⟨f.name, "type", f.label ++ " must be a valid " ++ (Domain.ofTag f.type).name, raw⟩) := by
  cases hb : raw.isBlank with
  | true =>
    rw [validate_blank hf hb] at h
    exact .inl ⟨rfl, (Except.ok.inj h).symm⟩
  | false =>
    cases hc : (Domain.ofTag f.type).coerce raw with
    | ok w =>
      rw [validate_coerced hf hb hc] at h
      exact .inr (.inl ⟨rfl, w, rfl, (Except.ok.inj h).symm⟩)
    | error e =>
      rcases Domain.coerce_error hc with ⟨-, hd, hr⟩ | ⟨p, rfl⟩
      · rw [validate_longInt hf hd hr] at h
        cases h
      · rw [validate_refused hf hb hc] at h
        exact .inr (.inr ⟨rfl, (Except.ok.inj h).symm⟩)

/-- What is taken is nothing, where nothing has to be given, or a value of the
    domain to which there is no objection. -/
theorem Field.validate_accepted {w : Value} (hf : f.compile = .ok v) :
    v.validate raw = .ok (.accepted w) ↔
      (raw.isBlank = true ∧ w = .null ∧ f.requirement? = none) ∨
      (raw.isBlank = false ∧ (Domain.ofTag f.type).coerce raw = .ok w ∧ f.objection? w = none) := by
  constructor
  · intro h
    rcases validate_cases hf h with ⟨hb, ho⟩ | ⟨hb, w', hc, ho⟩ | ⟨-, ho⟩
    · obtain ⟨hr, rfl⟩ := settle_accepted.1 ho.symm
      exact .inl ⟨hb, rfl, hr⟩
    · obtain ⟨hr, rfl⟩ := settle_accepted.1 ho.symm
      exact .inr ⟨hb, hc, hr⟩
    · cases ho
  · rintro (⟨hb, rfl, hr⟩ | ⟨hb, hc, hr⟩)
    · rw [validate_blank hf hb, hr]
      rfl
    · rw [validate_coerced hf hb hc, hr]
      rfl

/-- An error names the field and keeps the value as it was given. -/
theorem Field.of_rejected {e : FieldError} (hf : f.compile = .ok v)
    (h : v.validate raw = .ok (.rejected e)) : e.fieldName = f.name ∧ e.received = raw := by
  rcases validate_cases hf h with ⟨-, ho⟩ | ⟨-, w, -, ho⟩ | ⟨-, ho⟩
  · exact settle_rejected ho.symm
  · exact settle_rejected ho.symm
  · cases ho
    exact ⟨rfl, rfl⟩

/-! ## The verdict is given -/

/-- **The first violation decides.**  The validator of a field gives the verdict
    that its rules give: a value that is missing is turned down by the first
    rule that asks for one, and one of the domain by the first rule that it
    breaks, wherever these stand.  Errors name the field and keep the value as
    it was given. -/
theorem validate_eq_verdict (hf : f.compile = .ok v)
    (hc : ∀ e, (Domain.ofTag f.type).coerce raw = .error e → ∃ p, e = .notCoercible p) :
    v.validate raw = .ok (f.verdict raw) ∧
      ∀ e, v.validate raw = .ok (.rejected e) → e.fieldName = f.name ∧ e.received = raw := by
  have hv : v.validate raw = .ok (f.verdict raw) := by
    cases hb : raw.isBlank with
    | true => rw [Field.validate_blank hf hb, Field.verdict, if_pos hb]
    | false =>
      rw [Field.verdict, if_neg (by simp [hb])]
      cases h : (Domain.ofTag f.type).coerce raw with
      | ok value => exact Field.validate_coerced hf hb h
      | error e =>
        obtain ⟨p, rfl⟩ := hc e h
        exact Field.validate_refused hf hb h
  refine ⟨hv, fun e he => Field.verdict_rejected ?_⟩
  rw [hv] at he
  exact Except.ok.inj he

end

/-- A password that is too short is turned down as such, though the rule that
    asks for one comes after. -/
theorem validate_eq_verdict_short :
    let f : Field := { name := "pw", label := "Password", type := .declared .password, rules := [
      { kind := .min, argument := .int 1, message := "at least 1" },
      { kind := .minLength, argument := .int 8, message := "too short" },
      { kind := .required, message := "please choose one" }] }
    ∃ v, f.compile = .ok v ∧
      v.validate (.text "abc") = .ok (.rejected ⟨"pw", "minLength", "too short", .text "abc"⟩) ∧
      v.validate (.text "") = .ok (.rejected ⟨"pw", "required", "please choose one", .text ""⟩) := by
  intro f
  have hf : f.compile = .ok _ := rfl
  refine ⟨_, hf, ?_, ?_⟩
  · rw [(validate_eq_verdict hf fun e h => by cases h).1]
    rfl
  · rw [(validate_eq_verdict hf fun e h => by cases h).1]
    rfl

end Formulary
