/-
  Fields of one name: the last of them counts, at the place of the first.

  * `Form.lists_ownFields`: what is made of the fields that count is listed as
    the form has its names;
  * `Control.IsOf` is what a control has of its field, and `Engine.ShowsAs` says
    which control a field of a form in use shows as;
  * `last_field_speaks`: validators, values, controls, descriptions and inputs
    all have the names of the form in one order, and are made of one field.
-/
import Formulary.Proofs.Control
import Formulary.Proofs.Engine.Replay

namespace Formulary

/-! ## The fields that count -/

namespace Form
variable {α : Type} {form : Form} {f : Field} {name : String}

theorem mem_ownFields : f ∈ form.ownFields ↔ form.lastField? f.name = some f := by
  rw [ownFields, List.mem_filterMap]
  constructor
  · rintro ⟨n, -, hf⟩
    rwa [name_of_lastField? hf]
  · exact fun hf => ⟨f.name, mem_names hf, hf⟩

theorem find?_ownFields (form : Form) (name : String) :
    form.ownFields.find? (·.name = name) = form.lastField? name := by
  cases hf : form.ownFields.find? (·.name = name) with
  | some f =>
    have hn : f.name = name := by simpa using List.find?_some hf
    exact hn ▸ (mem_ownFields.1 (List.mem_of_find?_eq_some hf)).symm
  | none =>
    refine (Option.eq_none_iff_forall_ne_some.2 fun f hl => ?_).symm
    have hn := name_of_lastField? hl
    have hm : f ∈ form.ownFields := mem_ownFields.2 (hn ▸ hl)
    exact List.find?_eq_none.1 hf f hm (by simpa using hn)

theorem names_ownFields (form : Form) : form.ownFields.map (·.name) = form.names := by
  rw [ownFields, List.map_filterMap]
  refine (List.filterMap_congr fun n hn => ?_).trans List.filterMap_some
  obtain ⟨f, hf⟩ := exists_lastField? hn
  rw [hf, Option.map_some, name_of_lastField? hf]

theorem lists_ownFields {R : Field → α → Prop} {es : List (String × α)}
    (h : Made R form.ownFields es) : form.Lists R es where
  keys_eq := h.keys_eq.trans form.names_ownFields
  last name hn := by
    obtain ⟨f, hf⟩ := exists_lastField? hn
    obtain ⟨a, ha, hR⟩ := h.lookup ((form.find?_ownFields name).trans hf)
    exact ⟨f, a, hf, ha, hR⟩

end Form

/-! ## Controls -/

/-- Whether a control is that of a field: of the kind for its type, with its
    label and its choices. -/
structure Control.IsOf (c : Control) (f : Field) : Prop where
  kind : ∃ t, f.type = .declared t ∧ c.kind = .ofType t
  label : c.label = f.label
  choices : c.choices.map (fun x => (x.label, x.value)) =
    if c.kind.hasChoices then (f.choices.getD []).map fun x => (x.label, x.value.toValue.display)
    else []

namespace Field
variable {f : Field} {t : FieldType} {settings : Settings} {v : Value} {error : Option String}

theorem map_showChoices {cs : List ShownChoice} (h : f.showChoices v = .ok cs) :
    cs.map (fun x => (x.label, x.value)) =
      (f.choices.getD []).map fun x => (x.label, x.value.toValue.display) := by
  obtain ⟨s, -, rfl⟩ := showChoices_eq h
  rw [List.map_map]
  rfl

theorem control_isOf {c : Control} (ht : f.type = .declared t)
    (h : f.control t settings v error = .ok c) : c.name = f.name ∧ c.IsOf f := by
  have hp := control_presents h
  refine ⟨hp.name, ⟨t, ht, hp.kind⟩, hp.label, ?_⟩
  have hc := hp.choices
  split at hc
  · rw [if_pos ‹_›]
    exact map_showChoices hc
  · rw [if_neg ‹_›, hc]
    rfl

end Field

namespace Engine
variable {form : Form} {e₀ e x : Engine}

/-- Whether a control is that of a field of a form in use. -/
def ShowsAs (e : Engine) (settings : Settings) (f : Field) (c : Control) : Prop :=
  ∃ t, f.type = .declared t ∧
    f.control t settings (Schema.valueOf e.state.values f.name) (e.state.errors.lookup f.name) =
      .ok c

/-- Fields of declared types show as one control each. -/
theorem forall₂_controls {fields : List Field} {settings : Settings} {controls : List Control}
    (hd : ∀ f ∈ fields, ∃ t, f.type = .declared t)
    (h : fields.filterMapM (e.renderField settings) = .ok controls) :
    List.Forall₂ (e.ShowsAs settings) fields controls := by
  obtain ⟨os, hos, rfl⟩ := filterMapM_eq_ok.1 h
  clear h
  induction hos with
  | nil => exact .nil
  | @cons f o fields os hf _ ih =>
    obtain ⟨t, ht⟩ := hd f List.mem_cons_self
    have ih := ih fun g hg => hd g (List.mem_cons_of_mem f hg)
    have hk : f.type.known? = some t := by rw [ht]; rfl
    rw [renderField, Field.render_known hk] at hf
    obtain ⟨c, hc, rfl⟩ := map_eq_ok.1 hf
    exact .cons ⟨t, ht, hc⟩ ih

/-- A form shows as one control for each of the fields that count. -/
theorem forall₂_of_render (hd : e.form.IsDeclared) {settings : Settings} {shown : Rendered}
    (h : e.render settings = .ok shown) :
    List.Forall₂ (e.ShowsAs settings) e.form.ownFields shown.controls := by
  obtain ⟨controls, hc, h⟩ := bind_eq_ok.1 h
  cases h
  exact forall₂_controls (fun f hf => hd f (Form.mem_of_mem_ownFields hf)) hc

theorem lists_render (hd : e.form.IsDeclared) {settings : Settings} {shown : Rendered}
    (h : e.render settings = .ok shown) :
    e.form.Lists (fun f c => c.IsOf f) (shown.controls.map fun c => (c.name, c)) := by
  refine Form.lists_ownFields (List.forall₂_map_right_iff.2 ?_)
  refine (forall₂_of_render hd h).imp fun f c hc => ?_
  obtain ⟨t, ht, hc⟩ := hc
  exact Field.control_isOf ht hc

/-- A form of declared types can be mounted unless one of its rules cannot be
    read. -/
theorem mount_faults (hd : form.IsDeclared) (traced : Bool) :
    (∃ f, mount form false traced = .error f) ↔ ∃ f ∈ form.fields, f.IsUnreadable := by
  rw [← Schema.compile_faults hd]
  refine exists_congr fun f => ?_
  rw [mount, bind_eq_error]
  simp [pure, Except.pure]

/-- **The last field of a name speaks for it**, at the place of the first.  The
    descriptions and the inputs of a form, its validators, its values at every
    point of every run and its controls have the names of the form in one
    order, each once, and are made of the last field of each name.  A form can
    be mounted unless a rule cannot be read, and is shown unless an integer too
    long to be written is in the way. -/
theorem last_field_speaks (hd : form.IsDeclared) :
    (∃ v properties, form.jsonSchema = .ok v ∧ v.get? "properties" = some (.record properties) ∧
      form.Lists (fun f p => p = .record (Export.property f)) properties) ∧
    (∃ widgets, form.uiSchema = .ok (.record widgets) ∧
      form.Lists (fun f w => ∃ es, Export.widget f = .ok es ∧ w = .record es) widgets) ∧
    (∀ traced, (∃ f, mount form false traced = .error f) ↔ ∃ f ∈ form.fields, f.IsUnreadable) ∧
    ∀ strict traced e₀, mount form strict traced = .ok e₀ →
      form.Lists (fun f v => f.compile = .ok v) e₀.schema.validators ∧
      form.Lists (fun f v => v = f.initialValue) e₀.state.values ∧
      ∀ depth handler? ops x, Passes e₀ x (e₀.performAll depth handler? ops) →
        x.schema = e₀.schema ∧ Entries.keys x.state.values = form.names ∧
        form.Lists (fun f v => v = f.initialValue) x.reset.state.values ∧
        ∀ settings,
          ((∃ f, x.render settings = .error f) ↔ form.Unshowable x.state.values) ∧
          ∀ shown, x.render settings = .ok shown →
            form.Lists (fun f c => c.IsOf f) (shown.controls.map fun c => (c.name, c)) := by
  refine ⟨form.lists_jsonSchema hd, form.lists_uiSchema hd, mount_faults hd, ?_⟩
  intro strict traced e₀ hm
  obtain ⟨hs, hf, hi, -⟩ := mount_eq_ok hm
  have start := State.lists_initial form
  refine ⟨Schema.lists_of_compile hs, hi ▸ start, fun depth handler? ops x hx => ?_⟩
  have hform : x.form = form := hx.1.form_eq.trans hf
  have hnames : x.HasNames := hx.1.keeps Step.hasNames (hasNames_of_mount hm)
  subst hform
  refine ⟨hx.1.schema_eq, hnames.trans start.keys_eq, start, fun settings => ⟨?_, ?_⟩⟩
  · exact render_faults (fun f hf => hd.isKey hf) settings
  · exact fun shown hshown => lists_render hd hshown

/-- A box that is defined again, as a choice: it keeps its place, before the name
    that was between, and everything else is of the choice. -/
theorem last_field_speaks_again :
    let box : Field := { name := "plan", label := "Plan?", type := .declared .checkbox }
    let note : Field := { name := "note", label := "Note", type := .declared .text }
    let plan : Field :=
      { name := "plan", label := "Plan", type := .declared .radio,
        choices := some [⟨"Free", .text "free"⟩, ⟨"Ten", .number (.whole 10)⟩] }
    let form : Form := { fields := [box, note, plan] }
    form.IsDeclared ∧ ∃ e₀, mount form false false = .ok e₀ ∧
      let e := e₀.performAll maxDepth none [.set "note" (.text "a"), .submit]
      Entries.keys e.state.values = ["plan", "note"] ∧
      ∃ shown c, e.render {} = .ok shown ∧ shown.controls.map (·.name) = ["plan", "note"] ∧
        (shown.controls.map fun c => (c.name, c)).lookup "plan" = some c ∧ c.IsOf plan := by
  intro box note plan form
  have hd : form.IsDeclared := by
    simp only [Form.IsDeclared, form, List.forall_mem_cons]
    exact ⟨⟨_, rfl⟩, ⟨_, rfl⟩, ⟨_, rfl⟩, by simp⟩
  have hm : mount form false false = .ok _ := rfl
  refine ⟨hd, _, hm, ?_⟩
  intro e
  have he : Passes _ e e := ⟨(tracks_reaches none).performAll maxDepth _ _, .refl⟩
  obtain ⟨-, hk, -, hr⟩ := ((last_field_speaks hd).2.2.2 false false _ hm).2.2 maxDepth none _ e he
  have hs : (e.render {}).toOption.isSome = true := by decide +kernel
  cases hshown : e.render {} with
  | error f => simp [hshown, Except.toOption] at hs
  | ok shown =>
    have lists := (hr {}).2 shown hshown
    have hkeys : shown.controls.map (·.name) = form.names := by
      rw [← lists.keys_eq, Entries.keys, List.map_map]
      rfl
    obtain ⟨f, c, hf, hc, hp⟩ := lists.last "plan" (by decide)
    obtain rfl : plan = f := Option.some.inj hf
    exact ⟨hk, shown, c, rfl, hkeys, hc, hp⟩

/-- A text that is defined again, as a choice with an option of 4301 digits: it
    has its value and its description, and there are no controls. -/
theorem long_option_hides_names :
    let text : Field := { name := "size", label := "Size?", type := .declared .text }
    let size : Field :=
      { name := "size", label := "Size", type := .declared .select,
        choices := some [⟨"Small", .text "s"⟩, ⟨"Big", .number (.whole (Nat.pow 10 4300))⟩] }
    let form : Form := { fields := [text, size] }
    form.IsDeclared ∧ ∃ e₀, mount form false false = .ok e₀ ∧
      Entries.keys e₀.state.values = ["size"] ∧ (∃ v, form.jsonSchema = .ok v) ∧
      ∀ settings, e₀.render settings = .error .integerTooLong := by
  intro text size form
  have hd : form.IsDeclared := by
    simp only [Form.IsDeclared, form, List.forall_mem_cons]
    exact ⟨⟨_, rfl⟩, ⟨_, rfl⟩, by simp⟩
  have hm : mount form false false = .ok _ := rfl
  refine ⟨hd, _, hm, rfl, ⟨_, rfl⟩, fun settings => ?_⟩
  have hform := (mount_eq_ok hm).2.1
  have hkey := (sound_of_mount hm).types
  have hmem : size ∈ form.ownFields := Form.mem_ownFields.2 rfl
  have hlong : size.HasLongChoice (.text "") :=
    .inr ⟨_, List.mem_cons_of_mem _ List.mem_cons_self, by decide +kernel⟩
  exact render_unshowable hkey ⟨size, hform ▸ hmem, rfl, hlong⟩ settings

end Engine
end Formulary
