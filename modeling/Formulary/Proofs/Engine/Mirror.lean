/-
  The form as it shows, beside the form in use: which controls are marked, and
  what they hold.

  * `Engine.Orderly`: schema, values and messages have the names of the form,
    the messages in their order, whatever was done to the form;
  * `Rendered.marked` are the messages that show, and `Rendered.Mirrors` says
    that they and the values that show are those of the form in use;
  * `render_mirrors`: at every point of every run a form shows unless an integer
    too long to be written is in the way, and then it is such a mirror; right
    after a validation it shows the errors of the result.
-/
import Formulary.Proofs.Engine.Gate
import Formulary.Proofs.Engine.Naming
import Formulary.Proofs.Outcome

namespace Formulary

/-- The names and the messages of the controls that are marked. -/
def Rendered.marked (shown : Rendered) : List (String × Option String) :=
  (shown.controls.filter (·.hasError)).map fun c => (c.name, c.error)

/-- Whether a form shows as it is in use: with its messages, in their order, and
    with its values, but for toggles. -/
structure Rendered.Mirrors (shown : Rendered) (e : Engine) : Prop where
  marked : shown.marked = e.state.errors.map fun p => (p.1, some p.2)
  values : ∀ c ∈ shown.controls, c.kind ≠ .toggle → e.state.values.lookup c.name = some c.value

namespace Engine

/-- Whether the messages of a form stand in the order of its names. -/
def IsOrdered (e : Engine) : Prop := (Entries.keys e.state.errors).Sublist e.schema.names

theorem Step.isOrdered {a b : Engine} (h : Step a b) (hs : a.schema.OfFields)
    (ha : a.IsOrdered) : b.IsOrdered := by
  unfold IsOrdered at ha ⊢
  cases h with
  | set hset =>
    obtain ⟨-, rfl⟩ := state_set_eq_ok hset
    exact ha
  | validate hv =>
    obtain ⟨o, hm⟩ := Schema.madeUp_of_validate hs hv
    exact hm.messages_sublist
  | reset => exact List.nil_sublist _
  | move | call | span => exact ha

/-- Whether the parts of a form in use go together: its types are declared, its
    schema is of fields, and its schema, its values and its messages have the
    names of the form. -/
structure Orderly (e : Engine) : Prop where
  declared : e.form.IsDeclared
  schema : e.schema.OfFields
  names_eq : e.schema.names = e.form.names
  names : e.HasNames
  ordered : e.IsOrdered

theorem orderly_of_mount {form : Form} (hd : form.IsDeclared) {strict traced : Bool} {e : Engine}
    (h : mount form strict traced = .ok e) : e.Orderly := by
  obtain ⟨hs, hf, hi, -⟩ := mount_eq_ok h
  refine ⟨hf ▸ hd, Schema.ofFields_of_compile hs, ?_, hasNames_of_mount h, ?_⟩
  · rw [hf]
    exact (Schema.lists_of_compile hs).keys_eq
  · rw [IsOrdered, hi]
    exact List.nil_sublist _

theorem Reaches.orderly {e e' : Engine} (h : e.Reaches e') (he : e.Orderly) : e'.Orderly where
  declared := h.form_eq ▸ he.declared
  schema := h.schema_eq ▸ he.schema
  names_eq := by rw [h.schema_eq, h.form_eq, he.names_eq]
  names := h.keeps Step.hasNames he.names
  ordered := by
    -- a validation keeps the order only because the schema is still one of fields
    refine (h.keeps (I := fun x => x.schema.OfFields ∧ x.IsOrdered) (fun {a b} hab ha => ?_)
      ⟨he.schema, he.ordered⟩).2
    exact ⟨Reaches.schema_eq (.single hab) ▸ ha.1, hab.isOrdered ha.1 ha.2⟩

/-! ## The form as it shows -/

/-- **What shows of an orderly form is its mirror.** -/
theorem Orderly.mirrors {e : Engine} (he : e.Orderly) {settings : Settings} {shown : Rendered}
    (h : e.render settings = .ok shown) : shown.Mirrors e := by
  have made := forall₂_of_render he.declared h
  refine ⟨?marked, ?values⟩
  case marked =>
    have pairs : shown.controls.map (fun c => (c.name, c.error)) =
        e.schema.names.map fun n => (n, e.state.errors.lookup n) := by
      rw [he.names_eq, ← Form.names_ownFields, List.map_map]
      refine map_eq_of_forall₂ (made.imp fun f c hfc => ?_)
      obtain ⟨t, -, hfc⟩ := hfc
      have hp := Field.control_presents hfc
      rw [hp.name, hp.error]
      rfl
    have hm := Entries.filter_lookup e.schema.distinct he.ordered
    change (e.schema.names.map fun n => (n, e.state.errors.lookup n)).filter _ = _ at hm
    rw [← pairs, List.filter_map] at hm
    exact hm
  case values =>
    intro c hmem hne
    obtain ⟨f, hf, t, -, hfc⟩ := forall₂_mem_left made.flip c hmem
    have hp := Field.control_presents hfc
    have hsome : (e.state.values.lookup f.name).isSome = true :=
      he.names.isSome_lookup.2 (List.mem_map_of_mem (Form.mem_of_mem_ownFields hf))
    obtain ⟨v, hv⟩ := Option.isSome_iff_exists.1 hsome
    rw [hp.name, hp.value, if_neg hne, Schema.valueOf, hv]
    rfl

/-- The controls that are marked are those of the errors of a result, if its
    messages are those of the form. -/
theorem Orderly.marked_eq {e : Engine} (he : e.Orderly) {values : Entries} {r : Result}
    (hv : e.schema.validate values = .ok r) (hr : e.state.errors = r.messages)
    {settings : Settings} {shown : Rendered} (h : e.render settings = .ok shown) :
    shown.marked = r.errors.map fun x => (x.fieldName, some x.message) := by
  obtain ⟨o, hm⟩ := Schema.madeUp_of_validate he.schema hv
  rw [(he.mirrors h).marked, hr, Schema.messages_of_nodup hm.once, List.map_map]
  rfl

/-- A submit that calls no handler leaves the messages of its result. -/
theorem errors_of_submitWithin {e : Engine} {depth : Nat} {handler? : Option Handler} {r : Result}
    (h : (e.submitWithin handler? depth).2 = .ok r) (hr : r.isValid = false ∨ handler? = none) :
    (e.submitWithin handler? depth).1.state.errors = r.messages := by
  have hv := verdict_of_submitWithin h
  cases depth with
  | zero => cases h
  | succ depth =>
    rw [submitWithin_ok depth hv]
    cases hr' : r.isValid with
    | false => simp [conclude_invalid hr']
    | true =>
      obtain rfl : handler? = none := hr.resolve_left (by simp [hr'])
      simp [conclude_unhandled hr']

/-- **The form as it shows mirrors the form in use**, at every point of every
    run.  It shows unless an integer too long to be written is in the way; then
    the controls that are marked are those with messages, in their order, and
    each control but a toggle has the value of its name.  Right after a
    validation, and after a submit that calls no handler, the controls that are
    marked are those of the errors of the result: none if it is valid. -/
theorem render_mirrors {form : Form} (hd : form.IsDeclared) {strict traced : Bool} {e₀ : Engine}
    (hm : mount form strict traced = .ok e₀) (depth : Nat) (handler? : Option Handler)
    (ops : List Operation) {x : Engine} (hx : Passes e₀ x (e₀.performAll depth handler? ops)) :
    (∀ settings, (∃ shown, x.render settings = .ok shown) ↔ ¬form.Unshowable x.state.values) ∧
    (∀ settings shown, x.render settings = .ok shown → shown.Mirrors x) ∧
    (∀ r, x.validate.2 = .ok r →
      ∀ settings shown, x.validate.1.render settings = .ok shown →
        shown.marked = (r.errors.map fun e => (e.fieldName, some e.message)) ∧
        (r.isValid = true → shown.marked = [])) ∧
    ∀ nested r, (x.submitWithin handler? nested).2 = .ok r →
      r.isValid = false ∨ handler? = none →
      ∀ settings shown, (x.submitWithin handler? nested).1.render settings = .ok shown →
        shown.marked = r.errors.map fun e => (e.fieldName, some e.message) := by
  have horder : x.Orderly := hx.1.orderly (orderly_of_mount hd hm)
  have hform : x.form = form := hx.1.form_eq.trans (mount_eq_ok hm).2.1
  refine ⟨fun settings => ?shows, fun settings shown => horder.mirrors, ?validated, ?submitted⟩
  case shows =>
    rw [exists_ok_iff, render_faults (fun f hf => horder.declared.isKey hf) settings, hform]
  case validated =>
    intro r hr settings shown hshown
    have hreach := reaches_validate x
    cases hv : x.schema.validate x.state.values with
    | error f => rw [validate_error hv] at hr; cases hr
    | ok r' =>
      rw [validate_ok hv] at hr hshown hreach
      cases hr
      have hmarked := (hreach.orderly horder).marked_eq hv rfl hshown
      refine ⟨hmarked, fun hvalid => ?_⟩
      obtain ⟨o, hm⟩ := Schema.madeUp_of_validate horder.schema hv
      rw [hmarked, hm.valid.1 hvalid]
      rfl
  case submitted =>
    intro nested r hr hend settings shown hshown
    have hreach := (tracks_reaches handler?).submitWithin nested x
    have hv := hreach.schema_eq ▸ verdict_of_submitWithin hr
    exact (hreach.orderly horder).marked_eq hv (errors_of_submitWithin hr hend) hshown

/-- A message that is empty marks its control all the same, and a value that is
    entered after it does not take the mark away. -/
theorem render_mirrors_stale :
    let query : Field :=
      { name := "q", label := "Query", type := .declared .text, rules := [⟨.required, .null, ""⟩] }
    let agree : Field := { name := "ok", label := "Agree", type := .declared .checkbox }
    let form : Form := { fields := [query, agree] }
    form.IsDeclared ∧ ∃ e₀, mount form false false = .ok e₀ ∧
      let x := e₀.performAll maxDepth none [.submit, .set "q" (.text "a")]
      ∃ shown, x.render {} = .ok shown ∧ shown.marked = [("q", some "")] ∧
        ∀ c ∈ shown.controls, c.kind ≠ .toggle → c.name = "q" → c.value = .text "a" := by
  intro query agree form
  have hd : form.IsDeclared := by
    simp only [Form.IsDeclared, form, List.forall_mem_cons]
    exact ⟨⟨_, rfl⟩, ⟨_, rfl⟩, by simp⟩
  have hm : mount form false false = .ok _ := rfl
  refine ⟨hd, _, hm, ?_⟩
  intro x
  have hx : Passes _ x x := ⟨(tracks_reaches none).performAll maxDepth _ _, .refl⟩
  obtain ⟨shows, mirrors, -⟩ := render_mirrors hd hm maxDepth none _ hx
  have hlong : ¬form.Unshowable x.state.values := by
    rintro ⟨f, hf, hlong⟩
    have hf : f ∈ [query, agree] := Form.mem_of_mem_ownFields hf
    simp only [List.mem_cons, List.not_mem_nil, or_false] at hf
    -- neither is a field to choose from
    rcases hf with rfl | rfl
    · cases hlong.1
    · cases hlong.1
  obtain ⟨shown, hshown⟩ := (shows {}).2 hlong
  have mirror := mirrors {} shown hshown
  have herrors : x.state.errors = [("q", "")] := by decide +kernel
  have hvalue : x.state.values.lookup "q" = some (.text "a") := by decide +kernel
  refine ⟨shown, hshown, by rw [mirror.marked, herrors]; rfl, fun c hc hk hn => ?_⟩
  have := mirror.values c hc hk
  rw [hn, hvalue] at this
  exact (Option.some.inj this).symm

/-- A choice of 4301 digits keeps a form from being shown, from the start. -/
theorem long_choice_hides_form :
    let size : Field :=
      { name := "size", label := "Size", type := .declared .select,
        choices := some [⟨"Small", .text "s"⟩, ⟨"Big", .number (.whole (Nat.pow 10 4300))⟩] }
    let form : Form := { fields := [size] }
    form.IsDeclared ∧ ∃ e₀, mount form false false = .ok e₀ ∧ e₀.state.errors = [] ∧
      ∀ settings, e₀.render settings = .error .integerTooLong := by
  intro size form
  have hd : form.IsDeclared := by
    simp only [Form.IsDeclared, form, List.forall_mem_cons]
    exact ⟨⟨_, rfl⟩, by simp⟩
  have hm : mount form false false = .ok _ := rfl
  refine ⟨hd, _, hm, rfl, fun settings => ?_⟩
  have hform := (mount_eq_ok hm).2.1
  have hkey := (sound_of_mount hm).types
  have hmem : size ∈ form.ownFields := Form.mem_ownFields.2 rfl
  have hlong : size.HasLongChoice (.text "") :=
    .inr ⟨_, List.mem_cons_of_mem _ List.mem_cons_self, by decide +kernel⟩
  exact render_unshowable hkey ⟨size, hform ▸ hmem, rfl, hlong⟩ settings

end Engine

end Formulary
