/-
  Controls of fields, and when a form can be shown.

  * `Field.control_presents` says what the control of a field has;
  * `Engine.render_faults`: nothing but an integer too long to be written, in a
    field to choose from, among its choices or in the place of a type, keeps a
    form from being shown; `Engine.render_only` says that this is the fault.
-/
import Formulary.Control
import Formulary.Proofs.Domain

namespace Formulary

theorem Value.shown_faults {v : Value} : (∃ e, v.shown = .error e) ↔ v.hasLongInt = true := by
  cases h : v.hasLongInt <;> simp [shown, h]

theorem Value.selection_faults {v : Value} :
    (∃ e, v.selection = .error e) ↔ v.hasLongInt = true := by
  cases v with
  | null => simp [selection, hasLongInt]
  | _ => exact shown_faults

theorem Choice.shown_faults {selection : String} {c : Choice} :
    (∃ e, c.shown selection = .error e) ↔ c.value.toValue.hasLongInt = true := by
  simp only [shown, map_eq_error]
  exact Value.shown_faults

/-- A choice shows as the text of what it stands for, and is selected if that is
    the selection. -/
theorem Choice.shown_eq_ok {selection : String} {c : Choice} {x : ShownChoice} :
    c.shown selection = .ok x ↔ c.value.toValue.hasLongInt = false ∧
      x = ⟨c.label, c.value.toValue.display, c.value.toValue.display == selection⟩ := by
  rw [shown, Value.shown]
  cases c.value.toValue.hasLongInt <;> simp [Except.map, eq_comm]

/-- Whether a control is that of a field of a type, with a value and a message. -/
structure Control.Presents (c : Control) (f : Field) (t : FieldType) (v : Value)
    (error : Option String) : Prop where
  kind : c.kind = .ofType t
  name : c.name = f.name
  label : c.label = f.label
  error : c.error = error
  value : c.value = if c.kind = .toggle then .bool !v.isFalsy else v
  choices : if c.kind.hasChoices then f.showChoices v = .ok c.choices else c.choices = []

namespace Field
variable {f : Field} {t : FieldType} {settings : Settings} {v : Value} {error : Option String}

/-- Whether an integer too long to be written is in a value or among the
    choices of a field. -/
def HasLongChoice (f : Field) (v : Value) : Prop :=
  v.hasLongInt = true ∨ ∃ c ∈ f.choices.getD [], c.value.toValue.hasLongInt = true

theorem showChoices_faults : (∃ e, f.showChoices v = .error e) ↔ f.HasLongChoice v := by
  unfold showChoices HasLongChoice
  rw [← Value.selection_faults]
  cases hs : v.selection with
  | error e => simp [bind, Except.bind]
  | ok s =>
    have := mapM_faults (f := Choice.shown s) (l := f.choices.getD [])
    simpa [bind, Except.bind, Choice.shown_faults] using this

/-- The choices of a field beside a value: those are selected that show as the
    selection does. -/
theorem showChoices_eq {cs : List ShownChoice} (h : f.showChoices v = .ok cs) :
    ∃ s, v.selection = .ok s ∧ cs = (f.choices.getD []).map fun x =>
      ⟨x.label, x.value.toValue.display, x.value.toValue.display == s⟩ := by
  obtain ⟨s, hs, h⟩ := bind_eq_ok.1 h
  refine ⟨s, hs, (List.map_id cs).symm.trans ?_⟩
  exact map_eq_of_forall₂ ((mapM_eq_ok.1 h).imp fun x y hxy => (Choice.shown_eq_ok.1 hxy).2)

/-- **What the control of a field has**: all of it but its placeholder and what
    the settings say. -/
theorem control_presents {c : Control} (h : f.control t settings v error = .ok c) :
    c.Presents f t v error := by
  unfold control at h
  cases hk : ControlKind.ofType t with
  | singleLine | multiLine | toggle =>
    simp only [hk] at h
    cases h
    exact ⟨hk.symm, rfl, rfl, rfl, rfl, rfl⟩
  | select | radioGroup =>
    simp only [hk] at h
    obtain ⟨cs, hcs, h⟩ := bind_eq_ok.1 h
    cases h
    exact ⟨hk.symm, rfl, rfl, rfl, rfl, hcs⟩

/-- A field shows unless it is one to choose from with a choice too long. -/
theorem control_faults :
    (∃ e, f.control t settings v error = .error e) ↔ t.isChoice = true ∧ f.HasLongChoice v := by
  rw [← showChoices_faults]
  cases t <;>
    simp [control, ControlKind.ofType, FieldType.isChoice, bind_eq_error, pure, Except.pure]

/-- Whether an integer too long to be written keeps a field from being shown
    with a value: in a field to choose from, or in the place of the type. -/
def Unshowable (f : Field) (v : Value) : Prop :=
  match f.type.known? with
  | some t => t.isChoice = true ∧ f.HasLongChoice v
  | none => f.type.toValue.hasLongInt = true

/-- A field of a known type shows as its control. -/
theorem render_known (ht : f.type.known? = some t) :
    f.render settings v error = (f.control t settings v error).map some := by
  have hk : f.type.isKey = true := TypeTag.isKey_of_known? ht
  rw [render, if_neg (by simp [hk])]
  simp only [ht]

theorem render_faults (hk : f.type.isKey = true) :
    (∃ e, f.render settings v error = .error e) ↔ f.Unshowable v := by
  unfold render Unshowable
  rw [if_neg (by simp [hk])]
  cases f.type.known? with
  | none => cases f.type.toValue.hasLongInt <;> simp
  | some t => simp [map_eq_error, control_faults]

end Field

theorem Form.mem_of_mem_ownFields {form : Form} {f : Field} (h : f ∈ form.ownFields) :
    f ∈ form.fields := by
  obtain ⟨n, -, hn⟩ := List.mem_filterMap.1 h
  exact List.mem_reverse.1 (List.mem_of_find?_eq_some hn)

/-- Whether an integer too long to be written keeps a form from being shown with
    values. -/
def Form.Unshowable (form : Form) (values : Entries) : Prop :=
  ∃ f ∈ form.ownFields, f.Unshowable (Schema.valueOf values f.name)

/-- **A form shows** unless an integer too long to be written is in the way. -/
theorem Engine.render_faults {e : Engine} (he : ∀ f ∈ e.form.fields, f.type.isKey = true)
    (settings : Settings) :
    (∃ f, e.render settings = .error f) ↔ e.form.Unshowable e.state.values := by
  have hc : (∃ f, e.render settings = .error f) ↔
      ∃ f, e.form.ownFields.filterMapM (e.renderField settings) = .error f := by
    refine exists_congr fun f => ?_
    rw [render, bind_eq_error]
    simp [pure, Except.pure]
  rw [hc, filterMapM_faults]
  refine exists_congr fun f => and_congr_right fun hf => ?_
  exact Field.render_faults (he f (Form.mem_of_mem_ownFields hf))

/-! ## The fault -/

/-- Whether a computation faults over an integer too long to be written only. -/
abbrev FaultsOverLength {α : Type} (x : Except Fault α) : Prop :=
  FaultsOnly (· = .integerTooLong) x

theorem Value.shown_only (v : Value) : FaultsOverLength v.shown := by
  unfold shown
  split
  · exact .error rfl
  · exact .ok _

theorem Value.selection_only (v : Value) : FaultsOverLength v.selection := by
  unfold selection
  split
  · exact .ok _
  · exact shown_only v

namespace Field
variable {f : Field} {settings : Settings} {v : Value} {error : Option String}

theorem showChoices_only : FaultsOverLength (f.showChoices v) :=
  (Value.selection_only v).bind fun _ _ => .mapM fun c _ => (Value.shown_only c.value.toValue).map

theorem control_only {t : FieldType} : FaultsOverLength (f.control t settings v error) := by
  unfold control
  cases ControlKind.ofType t with
  | singleLine | multiLine | toggle => exact .ok _
  | select | radioGroup => exact showChoices_only.bind fun _ _ => .ok _

theorem render_only (hk : f.type.isKey = true) : FaultsOverLength (f.render settings v error) := by
  unfold render
  rw [if_neg (by simp [hk])]
  split
  · exact control_only.map
  · split
    · exact .error rfl
    · exact .ok _

end Field

/-- **What keeps a form from being shown** is an integer too long to be written. -/
theorem Engine.render_only {e : Engine} (he : ∀ f ∈ e.form.fields, f.type.isKey = true)
    (settings : Settings) : FaultsOverLength (e.render settings) := by
  refine FaultsOnly.bind ?_ fun _ _ => .ok _
  exact .filterMapM fun f hf => Field.render_only (he f (Form.mem_of_mem_ownFields hf))

theorem Engine.render_unshowable {e : Engine} (he : ∀ f ∈ e.form.fields, f.type.isKey = true)
    (hu : e.form.Unshowable e.state.values) (settings : Settings) :
    e.render settings = .error .integerTooLong := by
  obtain ⟨f, hf⟩ := (render_faults he settings).2 hu
  rw [hf, render_only he settings f hf]

end Formulary
