/-
  What is made of the fields of a form, under their names.

  * `Form.Lists`: entries have the names of a form, each once in the order of
    their first fields, and under a name what is made of its last field;
  * `Form.lists_ofList`: so do the entries made of the fields one by one, when
    repeats are gone;
  * `State.lists_initial`, `Form.lists_jsonSchema` and `Form.lists_uiSchema`:
    values to start from, descriptions and inputs are such entries.
-/
import Formulary.Control
import Formulary.Form.Export
import Formulary.Proofs.Entries
import Formulary.Proofs.Fallible
import Mathlib.Data.List.Nodup

namespace Formulary

variable {α : Type} {R : Field → α → Prop} {form : Form} {es : List (String × α)} {name : String}

/-- Whether entries are made of fields one by one, each under the name of its
    field. -/
def Made (R : Field → α → Prop) (fields : List Field) (es : List (String × α)) : Prop :=
  List.Forall₂ (fun f e => e.1 = f.name ∧ R f e.2) fields es

namespace Form

/-- Whether entries have the names of a form, each once in the order of their
    first fields, and under a name what is made of its last field. -/
structure Lists (form : Form) (R : Field → α → Prop) (es : List (String × α)) : Prop where
  keys_eq : Entries.keys es = form.names
  last : ∀ name ∈ form.names, ∃ f a,
    form.lastField? name = some f ∧ es.lookup name = some a ∧ R f a

/-- Whether all types of a form are declared. -/
def IsDeclared (form : Form) : Prop := ∀ f ∈ form.fields, ∃ t, f.type = .declared t

theorem name_of_lastField? {f : Field} (h : form.lastField? name = some f) : f.name = name := by
  simpa using List.find?_some h

theorem mem_of_lastField? {f : Field} (h : form.lastField? name = some f) : f ∈ form.fields :=
  List.mem_reverse.1 (List.mem_of_find?_eq_some h)

theorem mem_names {f : Field} (h : form.lastField? name = some f) : name ∈ form.names :=
  List.mem_eraseDups.2 (List.mem_map.2 ⟨f, mem_of_lastField? h, name_of_lastField? h⟩)

theorem exists_lastField? (h : name ∈ form.names) : ∃ f, form.lastField? name = some f := by
  obtain ⟨f, hf, hn⟩ := List.mem_map.1 (List.mem_eraseDups.1 h)
  refine Option.isSome_iff_exists.1 (List.find?_isSome.2 ⟨f, List.mem_reverse.2 hf, ?_⟩)
  simpa using hn

/-- Where no name is repeated, a field is the last of its name. -/
theorem lastField?_of_nodup (hn : (form.fields.map (·.name)).Nodup) {f : Field}
    (hf : f ∈ form.fields) : form.lastField? f.name = some f := by
  obtain ⟨g, hg⟩ := exists_lastField? (List.mem_eraseDups.2 (List.mem_map_of_mem hf))
  rw [hg, List.inj_on_of_nodup_map hn (mem_of_lastField? hg) hf (name_of_lastField? hg)]

end Form

/-! ## Entries made one by one -/

theorem Made.keys_eq {fields : List Field} (h : Made R fields es) :
    Entries.keys es = fields.map (·.name) :=
  map_eq_of_forall₂ (h.imp fun _ _ he => he.1)

/-- The first field of a name has made the first entry of it. -/
theorem Made.lookup {fields : List Field} {f : Field} (h : Made R fields es)
    (hf : fields.find? (·.name = name) = some f) : ∃ a, es.lookup name = some a ∧ R f a := by
  induction h with
  | nil => cases hf
  | @cons g e fields es he _ ih =>
    obtain ⟨k, a⟩ := e
    obtain ⟨rfl, ha⟩ := he
    by_cases hg : g.name = name
    · obtain rfl : g = f := by simpa [hg] using hf
      exact ⟨a, by simp [hg], ha⟩
    · rw [List.lookup_cons, beq_eq_false_iff_ne.2 (Ne.symm hg)]
      exact ih (by simpa [hg] using hf)

theorem made_map (fields : List Field) (g : Field → α) :
    Made (fun f a => a = g f) fields (fields.map fun f => (f.name, g f)) := by
  induction fields with
  | nil => exact .nil
  | cons f fields ih => exact .cons ⟨rfl, rfl⟩ ih

/-- **The last field of a name counts**, at the place of the first. -/
theorem Form.lists_ofList (h : Made R form.fields es) : form.Lists R (Entries.ofList es) where
  keys_eq := by rw [Entries.keys_ofList, h.keys_eq]; rfl
  last name hn := by
    obtain ⟨f, hf⟩ := form.exists_lastField? hn
    obtain ⟨a, ha, hR⟩ := Made.lookup (List.forall₂_reverse_iff.2 h) hf
    exact ⟨f, a, hf, by rw [Entries.lookup_ofList, ha], hR⟩

/-! ## Values to start from, descriptions and inputs -/

theorem State.lists_initial (form : Form) :
    form.Lists (fun f v => v = f.initialValue) (State.initial form.fields).values :=
  form.lists_ofList (made_map form.fields (·.initialValue))

namespace Form

theorem IsDeclared.isKey (h : form.IsDeclared) {f : Field} (hf : f ∈ form.fields) :
    f.type.isKey = true := by
  obtain ⟨t, ht⟩ := h f hf
  rw [ht]
  rfl

theorem lists_jsonSchema (h : form.IsDeclared) : ∃ v properties, form.jsonSchema = .ok v ∧
    v.get? "properties" = some (.record properties) ∧
    form.Lists (fun f p => p = .record (Export.property f)) properties := by
  have hk : form.fields.all (·.type.isKey) = true := List.all_eq_true.2 fun f hf => h.isKey hf
  refine ⟨_, _, if_pos hk, rfl, ?_⟩
  exact form.lists_ofList (made_map form.fields fun f => Value.record (Export.property f))

theorem lists_uiSchema (h : form.IsDeclared) : ∃ widgets,
    form.uiSchema = .ok (.record widgets) ∧
    form.Lists (fun f w => ∃ es, Export.widget f = .ok es ∧ w = .record es) widgets := by
  cases hw : form.fields.mapM fun f => (Export.widget f).map fun w => (f.name, Value.record w) with
  | ok widgets =>
    refine ⟨_, bind_eq_ok.2 ⟨_, hw, rfl⟩, form.lists_ofList ?_⟩
    refine (mapM_eq_ok.1 hw).imp fun f e he => ?_
    obtain ⟨es, hes, rfl⟩ := map_eq_ok.1 he
    exact ⟨rfl, es, hes, rfl⟩
  | error e =>
    obtain ⟨f, hf, e, he⟩ := mapM_faults.1 ⟨e, hw⟩
    obtain ⟨t, ht⟩ := h f hf
    rw [map_eq_error, Export.widget, ht] at he
    cases he

end Form
end Formulary
