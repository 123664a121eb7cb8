/-
  Schemas of fields: where their validators come from, and when there is no
  schema or no result.

  * `Schema.ofFields_eq_ok`: a schema has the validators of its fields, repeats
    gone;
  * `Schema.compile_faults`: fields have a schema unless one of their rules
    cannot be read;
  * `Schema.validate_faults`: the schema of a form gives a result for values
    unless an integer too long to be written stands where text is expected.
-/
import Formulary.Lint
import Formulary.Proofs.Names
import Formulary.Proofs.Verdict

namespace Formulary

/-! ## Rules that cannot be read -/

/-- Whether a rule that takes effect cannot be read: its pattern is out of
    bounds, or its argument is of no use and too long to be written. -/
def Rule.IsUnreadable (r : Rule) (t : TypeTag) : Prop :=
  r.kind.isPresence = false ∧ r.kind.appliesTo t = true ∧
    ((∃ e, r.demand? = .error e) ∨ r.demand? = .ok none ∧ r.argument.hasLongInt = true)

/-- Whether a rule of a field cannot be read. -/
def Field.IsUnreadable (f : Field) : Prop := ∃ r ∈ f.rules, r.IsUnreadable f.type

theorem Rule.check?_faults {r : Rule} {t : FieldType} :
    (∃ e, r.check? (.declared t) = .error e) ↔ r.IsUnreadable (.declared t) := by
  have hk : (TypeTag.declared t).isKey = true := rfl
  have hl : (TypeTag.declared t).toValue.hasLongInt = false := rfl
  unfold check? IsUnreadable
  cases r.kind.isPresence with
  | true => simp
  | false =>
    cases r.kind.appliesTo (.declared t) with
    | false => simp [hk, hl]
    | true =>
      cases r.demand? with
      | error e => simp [hk]
      | ok d? => cases d? <;> cases r.argument.hasLongInt <;> simp [hk]

theorem Field.compile_faults {f : Field} {t : FieldType} (ht : f.type = .declared t) :
    (∃ e, f.compile = .error e) ↔ f.IsUnreadable := by
  have hc : (∃ e, f.compile = .error e) ↔ ∃ e, f.checks = .error e := by
    have hk : f.type.isKey = true := ht ▸ rfl
    refine exists_congr fun e => ?_
    rw [compile, bind_eq_error]
    simp [hk, pure, Except.pure]
  rw [hc, checks, filterMapM_faults, IsUnreadable, ht]
  exact exists_congr fun r => and_congr_right fun _ => Rule.check?_faults

namespace Schema

/-- Whether every validator is that of a field, under its name. -/
def OfFields (s : Schema) : Prop :=
  ∀ p ∈ s.validators, ∃ f : Field, f.name = p.1 ∧ f.compile = .ok p.2

/-- Whether an integer too long to be written stands where text is expected. -/
def Overlong (s : Schema) (values : Entries) : Prop :=
  ∃ p ∈ s.validators, p.2.domain = .string ∧ (valueOf values p.1).IsLongInt

/-! ## Compiling -/

/-- A schema that is compiled strictly is of fields without errors. -/
theorem compile_eq_ok {strict : Bool} {fields : List Field} {s : Schema} :
    compile strict fields = .ok s ↔ ofFields fields = .ok s ∧
      (strict = true → ∃ ds, lint fields = .ok ds ∧ ∀ d ∈ ds, d.severity ≠ .error) := by
  unfold compile
  cases strict with
  | false => simp
  | true =>
    have none_left : ∀ ds : List Diagnostic, (ds.filter (·.severity = .error)).isEmpty = true ↔
        ∀ d ∈ ds, d.severity ≠ .error := by simp
    simp only [if_true, bind_eq_ok, forall_const]
    constructor
    · rintro ⟨ds, hds, h⟩
      cases he : (ds.filter (·.severity = .error)).isEmpty with
      | true =>
        rw [he, Bool.not_true, if_neg Bool.false_ne_true] at h
        exact ⟨h, ds, hds, (none_left ds).1 he⟩
      | false =>
        rw [he, Bool.not_false, if_pos rfl] at h
        cases h
    · rintro ⟨hs, ds, hds, hn⟩
      refine ⟨ds, hds, ?_⟩
      rw [(none_left ds).2 hn, Bool.not_true, if_neg Bool.false_ne_true]
      exact hs

/-- A schema grows by the validators of fields, one by one. -/
theorem foldlM_add_eq_ok {fields : List Field} : ∀ {s s' : Schema},
    fields.foldlM add s = .ok s' ↔ ∃ vs, Made (fun f v => f.compile = .ok v) fields vs ∧
      s'.validators = vs.foldl (fun acc p => Entries.put p.1 p.2 acc) s.validators := by
  induction fields with
  | nil =>
    intro s s'
    constructor
    · intro h
      cases h
      exact ⟨[], .nil, rfl⟩
    · rintro ⟨vs, hvs, h⟩
      cases hvs
      cases s
      cases s'
      cases h
      rfl
  | cons f fields ih =>
    intro s s'
    rw [List.foldlM_cons, bind_eq_ok]
    simp only [ih]
    constructor
    · rintro ⟨s₁, ha, vs, hvs, h⟩
      obtain ⟨v, hv, ha⟩ := bind_eq_ok.1 ha
      cases ha
      exact ⟨(f.name, v) :: vs, .cons ⟨rfl, hv⟩ hvs, h⟩
    · rintro ⟨_, hvs, h⟩
      cases hvs with
      | @cons _ p _ vs hp hvs =>
        obtain ⟨k, v⟩ := p
        obtain ⟨rfl, hv⟩ := hp
        exact ⟨_, bind_eq_ok.2 ⟨v, hv, rfl⟩, vs, hvs, h⟩

/-- **A schema has the validators of its fields**, repeats gone. -/
theorem ofFields_eq_ok {fields : List Field} {s : Schema} :
    ofFields fields = .ok s ↔ ∃ vs, Made (fun f v => f.compile = .ok v) fields vs ∧
      s.validators = Entries.ofList vs :=
  foldlM_add_eq_ok

/-- **A schema of fields of declared types fails** by a rule that cannot be read
    only. -/
theorem compile_faults {fields : List Field} (hd : ∀ f ∈ fields, ∃ t, f.type = .declared t) :
    (∃ e, compile false fields = .error e) ↔ ∃ f ∈ fields, f.IsUnreadable := by
  change (∃ e, fields.foldlM add empty = .error e) ↔ _
  generalize empty = s
  induction fields generalizing s with
  | nil => simp [pure, Except.pure]
  | cons f fields ih =>
    obtain ⟨t, ht⟩ := hd f List.mem_cons_self
    have ih := fun s => ih (fun g hg => hd g (List.mem_cons_of_mem f hg)) s
    rw [List.foldlM_cons, List.exists_mem_cons_iff, ← Field.compile_faults ht]
    cases hv : f.compile with
    | error e => simp [add, hv, bind, Except.bind]
    | ok v => simpa [add, hv, bind, Except.bind, pure, Except.pure] using ih _

/-! ## Where validators come from -/

theorem lists_of_compile {strict : Bool} {form : Form} {s : Schema}
    (h : compile strict form.fields = .ok s) :
    form.Lists (fun f v => f.compile = .ok v) s.validators := by
  obtain ⟨vs, hvs, hs⟩ := ofFields_eq_ok.1 (compile_eq_ok.1 h).1
  rw [hs]
  exact form.lists_ofList hvs

theorem isKey_of_compile {strict : Bool} {fields : List Field} {s : Schema}
    (h : compile strict fields = .ok s) {f : Field} (hf : f ∈ fields) : f.type.isKey = true := by
  obtain ⟨vs, hvs, -⟩ := ofFields_eq_ok.1 (compile_eq_ok.1 h).1
  obtain ⟨p, -, -, hp⟩ := forall₂_mem_left hvs f hf
  obtain ⟨_, -, hk, -⟩ := Field.compile_eq_ok hp
  exact hk

theorem ofFields_of_compile {strict : Bool} {fields : List Field} {s : Schema}
    (h : compile strict fields = .ok s) : s.OfFields := by
  intro p hp
  have hl : Form.Lists { fields } (fun f v => f.compile = .ok v) s.validators :=
    lists_of_compile h
  obtain ⟨f, v, hf, hv, hc⟩ := hl.last p.1 (hl.keys_eq ▸ List.mem_map_of_mem hp)
  obtain rfl : p.2 = v :=
    Option.some.inj (((Entries.lookup_eq_some_iff s.distinct).2 hp).symm.trans hv)
  exact ⟨f, Form.name_of_lastField? hf, hc⟩

/-! ## Results -/

/-- **A schema of fields gives a result** unless an integer too long to be
    written stands where text is expected. -/
theorem validate_faults {s : Schema} (hs : s.OfFields) (values : Entries) :
    (∃ e, s.validate values = .error e) ↔ s.Overlong values := by
  simp only [validate, map_eq_error, outcomes]
  rw [mapM_faults]
  refine exists_congr fun p => and_congr_right fun hp => ?_
  obtain ⟨f, -, hf⟩ := hs p hp
  simp only [map_eq_error]
  rw [Field.validate_faults hf]
  obtain ⟨cs, -, -, hv⟩ := Field.compile_eq_ok hf
  rw [hv]

end Schema
end Formulary
