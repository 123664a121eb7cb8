/-
  What counts as no input type: to diagnostics, to the schema and to what is shown.

  The schema and the controls go by what a tag counts as, so that a text that
  names an input type is one to them.  Diagnostics go by whether the type is
  declared.

  * `Lint.untypes_iff`: a type is reported iff it is not declared;
  * `Field.passesThrough_iff` and `Field.isHidden_iff`: any value passes in a
    field, and nothing is shown of it, iff its tag counts as no input type;
  * `types_agree_iff`: so all three agree on a field, unless the name of an input
    type stands in the place of its type.
-/
import Formulary.Proofs.Control
import Formulary.Proofs.Lint

namespace Formulary

/-! ## Tags -/

/-- Whether a tag is a declared type or a text put there by hand. -/
def TypeTag.IsWord (t : TypeTag) : Prop := ∀ v, t = .bare v → ∃ s, v = .text s

/-- Whether a tag is the name of an input type put there by hand. -/
def TypeTag.IsBareName (t : TypeTag) : Prop :=
  ∃ s, t = .bare (.text s) ∧ (FieldType.ofName? s).isSome = true

namespace TypeTag
variable {t : TypeTag}

theorem IsWord.isKey (h : t.IsWord) : t.isKey = true := by
  cases t with
  | declared t => rfl
  | bare v =>
    obtain ⟨s, rfl⟩ := h v rfl
    rfl

theorem IsWord.short (h : t.IsWord) : t.toValue.hasLongInt = false := by
  cases t with
  | declared t => rfl
  | bare v =>
    obtain ⟨s, rfl⟩ := h v rfl
    rfl

theorem mixed_iff : Domain.ofTag t = .mixed ↔ t.known? = none := by
  unfold Domain.ofTag
  cases t.known? with
  | none => simp
  | some t => cases t <;> simp [Domain.ofType]

end TypeTag

/-! ## Diagnostics -/

namespace Lint

/-- Whether diagnostics report the type of a field of a name. -/
def Untypes (ds : List Diagnostic) (name : String) : Prop :=
  ∃ d ∈ ds, d.code = .unknownFieldType ∧ d.fieldName = name

variable {f : Field} {fields : List Field} {ds : List Diagnostic}

/-- A field has a report of its type among its diagnostics iff it is not
    declared. -/
theorem untypes_field (h : field f = .ok ds) {name : String} :
    Untypes ds name ↔ f.name = name ∧ ∃ v, f.type = .bare v := by
  unfold field at h
  split at h
  case h_1 v ht =>
    split at h <;> cases h
    constructor
    · rintro ⟨d, hd, hc, rfl⟩
      rcases List.mem_append.1 hd with hd | hd
      · cases hc.symm.trans (name?_eq_some (Option.mem_toList.1 hd)).1
      · rw [List.mem_singleton.1 hd]
        exact ⟨rfl, v, ht⟩
    · rintro ⟨rfl, -⟩
      exact ⟨_, List.mem_append_right _ (List.mem_singleton_self _), rfl, rfl⟩
  case h_2 t ht =>
    obtain ⟨rules, hr, h⟩ := bind_eq_ok.1 h
    cases h
    refine iff_of_false ?_ (by simp [ht])
    rintro ⟨d, hd, hc, -⟩
    simp only [List.mem_append, Option.mem_toList] at hd
    rcases hd with ((hd | hd) | hd) | hd
    · cases hc.symm.trans (name?_eq_some hd).1
    · obtain ⟨r, -, hrd⟩ := mem_of_filterMapM hr hd
      rcases code_rule? hrd with h | h <;> cases hc.symm.trans h
    · cases hc.symm.trans (code_presence? hd)
    · cases hc.symm.trans (code_choices? hd)

/-- **A type is reported iff it is not declared.** -/
theorem untypes_iff (h : lint fields = .ok ds) {name : String} :
    Untypes ds name ↔ ∃ f ∈ fields, f.name = name ∧ ∃ v, f.type = .bare v := by
  constructor
  · rintro ⟨d, hd, hc, hn⟩
    rcases (mem_lint h).1 hd with hd | ⟨f, hf, es, hes, hd⟩
    · cases hc.symm.trans (code_duplicates hd)
    · exact ⟨f, hf, (untypes_field hes).1 ⟨d, hd, hc, hn⟩⟩
  · rintro ⟨f, hf, hu⟩
    obtain ⟨es, hes⟩ := field_of_lint h f hf
    obtain ⟨d, hd, hc⟩ := (untypes_field hes).2 hu
    exact ⟨d, (mem_lint h).2 (.inr ⟨f, hf, es, hes, hd⟩), hc⟩

end Lint

/-! ## Fields -/

namespace Field

/-- Whether diagnostics of a field by itself report its type. -/
def IsUntyped (f : Field) : Prop := ∃ ds, lint [f] = .ok ds ∧ Lint.Untypes ds f.name

/-- Whether the schema takes any value for a field. -/
def PassesThrough (f : Field) : Prop := ∃ v, f.compile = .ok v ∧ v.domain = .mixed

/-- Whether nothing is shown of a field with a value and a message. -/
def IsHidden (f : Field) (settings : Settings) (v : Value) (error : Option String) : Prop :=
  f.render settings v error = .ok none

variable {f : Field}

theorem isUntyped_iff (hf : f.type.IsWord) : f.IsUntyped ↔ ∃ v, f.type = .bare v := by
  constructor
  · rintro ⟨ds, hds, hu⟩
    obtain ⟨g, hg, -, hv⟩ := (Lint.untypes_iff hds).1 hu
    rwa [List.mem_singleton.1 hg] at hv
  · rintro ⟨v, hv⟩
    obtain ⟨s, rfl⟩ := hf v hv
    obtain ⟨es, hes⟩ : ∃ es, Lint.field f = .ok es := by
      unfold Lint.field
      rw [hv]
      exact ⟨_, rfl⟩
    obtain ⟨ds, hds⟩ : ∃ ds, lint [f] = .ok ds :=
      ⟨_, by rw [lint, List.mapM_cons, hes]; rfl⟩
    exact ⟨ds, hds, (Lint.untypes_iff hds).2 ⟨f, List.mem_singleton_self f, rfl, _, hv⟩⟩

/-- A rule becomes no check on a field whose tag counts as no input type. -/
theorem checks_of_unknown (hf : f.type.IsWord) (hu : f.type.known? = none) :
    ∃ cs, f.checks = .ok cs := by
  refine exists_ok_iff.2 fun he => ?_
  obtain ⟨r, -, e, hr⟩ := filterMapM_faults.1 he
  unfold Rule.check? at hr
  split at hr
  · cases hr
  · rename_i hp
    have hk : r.kind ≠ .required := fun hk => hp (by simp [hk, RuleKind.isPresence])
    simp [hf.isKey, hf.short, RuleKind.appliesTo, hu, hk] at hr

theorem passesThrough_iff (hf : f.type.IsWord) : f.PassesThrough ↔ f.type.known? = none := by
  constructor
  · rintro ⟨v, hv, hd⟩
    obtain ⟨cs, -, -, rfl⟩ := compile_eq_ok hv
    exact TypeTag.mixed_iff.1 hd
  · intro hu
    obtain ⟨cs, hcs⟩ := checks_of_unknown hf hu
    have hc : f.compile =
        .ok ⟨f.name, f.label, f.type, .ofTag f.type, cs, f.requiredMessage⟩ := by
      rw [compile, hcs, hf.isKey]
      rfl
    exact ⟨_, hc, TypeTag.mixed_iff.2 hu⟩

theorem isHidden_iff (hf : f.type.IsWord) (settings : Settings) (v : Value)
    (error : Option String) : f.IsHidden settings v error ↔ f.type.known? = none := by
  unfold IsHidden
  cases hk : f.type.known? with
  | some t =>
    rw [render_known hk]
    refine iff_of_false (fun h => ?_) nofun
    obtain ⟨c, -, hc⟩ := map_eq_ok.1 h
    cases hc
  | none =>
    rw [render, if_neg (by simp [hf.isKey])]
    simp [hk, hf.short]

end Field

/-- **All agree on what is no input type, but for the names of input types.**  Of
    a field whose type is declared, or any text put there by hand, the schema
    takes any value iff nothing is shown of it, whatever its value; its type is
    then reported, in whatever form the field stands.  The report agrees with the
    others iff what stands there is not a name of an input type put there by
    hand. -/
theorem types_agree_iff {f : Field} (hf : f.type.IsWord) (settings : Settings) (v : Value)
    (error : Option String) :
    (f.PassesThrough ↔ f.IsHidden settings v error) ∧
    (f.IsHidden settings v error → f.IsUntyped) ∧
    ((f.IsUntyped ↔ f.IsHidden settings v error) ↔ ¬f.type.IsBareName) ∧
    ∀ fields ds, lint fields = .ok ds → f ∈ fields →
      (∀ g ∈ fields, g.name = f.name → g = f) → (Lint.Untypes ds f.name ↔ f.IsUntyped) := by
  have hidden := f.isHidden_iff hf settings v error
  have untyped := f.isUntyped_iff hf
  refine ⟨(f.passesThrough_iff hf).trans hidden.symm, ?reported, ?agree, ?among⟩
  case reported =>
    rw [hidden, untyped]
    intro hu
    cases ht : f.type with
    | declared t => rw [ht] at hu; cases hu
    | bare v => exact ⟨v, rfl⟩
  case agree =>
    rw [hidden, untyped]
    cases ht : f.type with
    | declared t => simp [TypeTag.known?, TypeTag.IsBareName]
    | bare v =>
      obtain ⟨s, rfl⟩ := hf v ht
      simp [TypeTag.known?, TypeTag.IsBareName]
  case among =>
    intro fields ds hds hm hn
    rw [Lint.untypes_iff hds, untyped]
    constructor
    · rintro ⟨g, hg, he, hv⟩
      rwa [hn g hg he] at hv
    · exact fun hv => ⟨f, hm, rfl, hv⟩

/-- A color is no input type to any of them. -/
theorem types_agree_iff_color :
    let f : Field := { name := "color", label := "Color", type := .bare (.text "color") }
    f.type.IsWord ∧ f.IsUntyped ∧ f.PassesThrough ∧ f.IsHidden {} (.text "red") none := by
  intro f
  have hf : f.type.IsWord := by
    rintro v ⟨⟩
    exact ⟨_, rfl⟩
  obtain ⟨passes, reported, -, -⟩ := types_agree_iff hf {} (.text "red") none
  have hidden : f.IsHidden {} (.text "red") none := by
    unfold Field.IsHidden
    decide +kernel
  exact ⟨hf, reported hidden, passes.2 hidden, hidden⟩

/-- A name of an input type put there by hand is reported as none, though the field
    is validated as text and shown as a control. -/
theorem named_type_is_reported :
    let f : Field := { name := "a", label := "A", type := .bare (.text "text") }
    f.IsUntyped ∧ (∃ v, f.compile = .ok v ∧ v.domain = .string) ∧
      ∃ c, f.render {} (.text "") none = .ok (some c) := by
  intro f
  have hl : lint [f] = .ok [⟨"a", .unknownFieldType,
      "Unknown field type 'text'; the field is not validated or rendered", .error⟩] := by
    decide +kernel
  exact ⟨⟨_, hl, _, List.mem_singleton_self _, rfl, rfl⟩, ⟨_, rfl, rfl⟩, _, rfl⟩

end Formulary
