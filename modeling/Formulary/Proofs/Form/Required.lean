/-
  The names that a description lists as required, and those that the schema
  requires a value of.

  * `Schema.ListsRequired` is how the two should be;
  * `Form.required_agrees_iff`: they are so iff no field by which a value has to
    be given is followed by another of its name.
-/
import Formulary.Proofs.Schema

namespace Formulary

variable {form : Form} {strict : Bool} {s : Schema}

/-! ## Required names -/

/-- Whether a value of a name has to be given. -/
def Schema.Requires (s : Schema) (name : String) : Prop :=
  ∃ v, s.get? name = some v ∧ v.isRequired = true

/-- Whether a list has the names of which a value has to be given, each once. -/
structure Schema.ListsRequired (s : Schema) (names : List String) : Prop where
  once : names.Nodup
  mem_iff : ∀ name, name ∈ names ↔ s.Requires name

theorem Field.isRequired_eq {f : Field} {v : Validator} (h : f.compile = .ok v) :
    v.isRequired = f.hasRule .required := by
  obtain ⟨cs, -, -, rfl⟩ := compile_eq_ok h
  rw [Validator.isRequired, requiredMessage, Option.isSome_map, Bool.eq_iff_iff,
    List.find?_isSome, hasRule, List.any_eq_true]

namespace Form

theorem lastField?_append {l₁ l₂ : List Field} {name : String} (h : form.fields = l₁ ++ l₂) :
    form.lastField? name =
      (l₂.reverse.find? (·.name = name)).or (l₁.reverse.find? (·.name = name)) := by
  rw [lastField?, h, List.reverse_append, List.find?_append]

theorem mem_requiredNames {name : String} :
    name ∈ form.requiredNames ↔ ∃ f ∈ form.fields, f.hasRule .required = true ∧ f.name = name := by
  simp only [requiredNames, List.mem_map, List.mem_filter, and_assoc]

/-- A value of a name has to be given iff the last field of the name says so. -/
theorem requires_iff (hc : Schema.compile strict form.fields = .ok s) {name : String} :
    s.Requires name ↔ ∃ f, form.lastField? name = some f ∧ f.hasRule .required = true := by
  have hl := Schema.lists_of_compile hc
  constructor
  · rintro ⟨v, hv, hr⟩
    have hk : (s.validators.lookup name).isSome = true := Option.isSome_of_eq_some hv
    have hn : name ∈ form.names := hl.keys_eq ▸ Entries.isSome_lookup.1 hk
    obtain ⟨f, v', hf, hv', hfv⟩ := hl.last name hn
    obtain rfl : v' = v := Option.some.inj (hv'.symm.trans hv)
    exact ⟨f, hf, Field.isRequired_eq hfv ▸ hr⟩
  · rintro ⟨f, hf, hr⟩
    obtain ⟨f', v, hf', hv, hfv⟩ := hl.last name (mem_names hf)
    obtain rfl : f' = f := Option.some.inj (hf'.symm.trans hf)
    exact ⟨v, hv, (Field.isRequired_eq hfv).trans hr⟩

theorem requires_subset (hc : Schema.compile strict form.fields = .ok s) {name : String}
    (h : s.Requires name) : name ∈ form.requiredNames := by
  obtain ⟨f, hf, hr⟩ := (requires_iff hc).1 h
  exact mem_requiredNames.2 ⟨f, mem_of_lastField? hf, hr, name_of_lastField? hf⟩

/-- Whether no field by which a value has to be given is followed by another of
    its name. -/
def RequiresLast (form : Form) : Prop :=
  form.fields.Pairwise fun f g => f.hasRule .required = true → g.name ≠ f.name

instance (form : Form) : Decidable form.RequiresLast :=
  inferInstanceAs (Decidable (form.fields.Pairwise fun f g =>
    f.hasRule .required = true → g.name ≠ f.name))

theorem listsRequired_iff (hc : Schema.compile strict form.fields = .ok s) :
    s.ListsRequired form.requiredNames ↔ form.RequiresLast := by
  constructor
  · intro h
    refine List.pairwise_iff_forall_sublist.2 fun {f g} hfg hr hn => ?_
    obtain ⟨l₁, l₂, hl, hf, hg⟩ := List.cons_sublist_iff.1 hfg
    have hg : g ∈ l₂ := List.singleton_sublist.1 hg
    have hm : f.name ∈ form.requiredNames :=
      mem_requiredNames.2 ⟨f, hl ▸ List.mem_append_left l₂ hf, hr, rfl⟩
    obtain ⟨f', hf', hr'⟩ := (requires_iff hc).1 ((h.mem_iff _).1 hm)
    -- the last field of the name stands behind the first part, so the name is listed twice
    have hf₂ : f' ∈ l₂ := by
      rw [lastField?_append hl] at hf'
      obtain ⟨f'', hf''⟩ := Option.isSome_iff_exists.1
        (List.find?_isSome.2 ⟨g, List.mem_reverse.2 hg, by simpa using hn⟩ :
          (l₂.reverse.find? (·.name = f.name)).isSome = true)
      rw [hf'', Option.some_or] at hf'
      exact List.mem_reverse.1 (List.mem_of_find?_eq_some (hf''.trans hf'))
    have hnd := h.once
    rw [requiredNames, hl, List.filter_append, List.map_append] at hnd
    exact (List.nodup_append.1 hnd).2.2 f.name
      (List.mem_map.2 ⟨f, List.mem_filter.2 ⟨hf, hr⟩, rfl⟩) f.name
      (List.mem_map.2 ⟨f', List.mem_filter.2 ⟨hf₂, hr'⟩, name_of_lastField? hf'⟩) rfl
  · intro h
    refine ⟨?once, fun name => ⟨fun hm => ?mem, requires_subset hc⟩⟩
    case once =>
      rw [requiredNames, List.Nodup, List.pairwise_map, List.pairwise_filter]
      exact h.imp fun hfg hf _ => (hfg hf).symm
    case mem =>
      obtain ⟨f, hf, hr, rfl⟩ := mem_requiredNames.1 hm
      obtain ⟨l₁, l₂, hl⟩ := List.append_of_mem hf
      refine (requires_iff hc).2 ⟨f, ?_, hr⟩
      have hlast : ∀ g ∈ l₂, g.name ≠ f.name := by
        rw [RequiresLast, hl, List.pairwise_append, List.pairwise_cons] at h
        exact fun g hg => h.2.1.1 g hg hr
      have hnone : l₂.reverse.find? (·.name = f.name) = none := by
        simpa using hlast
      rw [lastField?_append hl, List.reverse_cons, List.find?_append, hnone]
      simp

/-- **The names listed as required** are those of which the schema requires a
    value, and as many times as fields of the name ask for one; they are listed
    as the schema requires them iff no field that asks for a value is followed
    by another of its name. -/
theorem required_agrees_iff (hd : form.IsDeclared)
    (hc : Schema.compile strict form.fields = .ok s) :
    ∃ d names, form.jsonSchema = .ok d ∧
      d.get? "required" = some (.list (names.map .text)) ∧
      (∀ name, names.count name =
        form.fields.countP fun f => f.hasRule .required && f.name = name) ∧
      (∀ name, s.Requires name → name ∈ names) ∧
      (s.ListsRequired names ↔ form.RequiresLast) := by
  have hk : form.fields.all (·.type.isKey) = true := List.all_eq_true.2 fun f hf => hd.isKey hf
  refine ⟨_, form.requiredNames, if_pos hk, rfl, fun name => ?_, fun _ => requires_subset hc,
    listsRequired_iff hc⟩
  rw [requiredNames, List.count, List.countP_map, List.countP_filter]
  refine List.countP_congr fun f _ => ?_
  simp [and_comm]

/-- A name that is asked for twice is listed twice; where only its last field
    asks, it is listed once, as the schema requires it. -/
theorem required_agrees_iff_redefined :
    let asked : Field :=
      { name := "p", label := "P", type := .declared .text, rules := [⟨.required, .null, "P?"⟩] }
    let free : Field := { name := "p", label := "P", type := .declared .text }
    (∃ s d names, Schema.compile false [asked, asked] = .ok s ∧
        jsonSchema { fields := [asked, asked] } = .ok d ∧
        d.get? "required" = some (.list (names.map .text)) ∧ names.count "p" = 2 ∧
        ¬s.ListsRequired names) ∧
      ∃ s d names, Schema.compile false [free, asked] = .ok s ∧
        jsonSchema { fields := [free, asked] } = .ok d ∧
        d.get? "required" = some (.list (names.map .text)) ∧ names.count "p" = 1 ∧
        s.ListsRequired names := by
  intro asked free
  have declared : ∀ fields : List Field, fields ⊆ [asked, free] →
      ({ fields } : Form).IsDeclared := by
    intro fields hf f hm
    rcases List.mem_cons.1 (hf hm) with rfl | hm
    · exact ⟨_, rfl⟩
    · obtain rfl := List.mem_singleton.1 hm
      exact ⟨_, rfl⟩
  constructor
  · have hc : Schema.compile false [asked, asked] = .ok _ := rfl
    obtain ⟨d, names, hd, hr, hcount, -, hiff⟩ :=
      required_agrees_iff (declared [asked, asked] (by simp)) hc
    exact ⟨_, d, names, hc, hd, hr, hcount "p", fun h => absurd (hiff.1 h) (by decide)⟩
  · have hc : Schema.compile false [free, asked] = .ok _ := rfl
    obtain ⟨d, names, hd, hr, hcount, -, hiff⟩ :=
      required_agrees_iff (declared [free, asked] (by simp)) hc
    exact ⟨_, d, names, hc, hd, hr, hcount "p", hiff.2 (by decide)⟩

/-- A question whose last field does not ask for an answer is listed as
    required, and one that asks for it twice is listed twice. -/
theorem required_of_an_earlier_field :
    let asked (name : String) : Field :=
      { name, label := name, type := .declared .text, rules := [⟨.required, .null, "?"⟩] }
    let free (name : String) : Field := { name, label := name, type := .declared .text }
    let form : Form := { fields := [asked "q", free "q", asked "p", asked "p"] }
    ∃ (s : Schema) (d : Value) (names : List String),
      Schema.compile false form.fields = .ok s ∧ form.jsonSchema = .ok d ∧
      d.get? "required" = some (.list (names.map .text)) ∧
      ¬names.Nodup ∧ "q" ∈ names ∧ ¬s.Requires "q" := by
  intro asked free form
  refine ⟨_, _, ["q", "p", "p"], rfl, rfl, rfl, by decide, by decide, ?_⟩
  rintro ⟨v, hv, hr⟩
  cases hv
  cases hr

end Form
end Formulary
