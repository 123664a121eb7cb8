/-
  Entering and choosing values in a form in use, through its controls.

  A control knows the name that it is bound to, and what the form was like when
  it was rendered; what is passed on goes to the form as it is then.

  * `Engine.Sets` says that a form became another by one value and nothing else;
  * `Engine.Action` is anything that is done to a form, through controls or not,
    and `Engine.actAll` does one thing after another;
  * `controls_never_go_stale`: what is entered in a control is what its name has,
    however long ago the control was rendered; a toggle alone may refuse it;
  * `choosing_round_trips`: a choice can be made iff it is offered, and it shows
    as made when the form is rendered again.
-/
import Formulary.Proofs.Engine.Naming

namespace Formulary

/-! ## What controls pass on -/

namespace Control
variable {c : Control} {v w : Value} {f : Fault}

/-- Whether a control offers a text to be chosen: one of its choices stands for
    it, or it is the empty one of a select, for no choice. -/
def Offers (c : Control) (s : String) : Prop :=
  (∃ x ∈ c.choices, x.value = s) ∨ c.kind = .select ∧ s = ""

theorem contains_options {s : String} : c.options.contains s = true ↔ c.Offers s := by
  rw [List.contains_iff_mem, options, List.mem_append, List.mem_map, Offers]
  refine or_congr_right ?_
  split <;> simp [*]

theorem chosen_of_no_choices (hk : c.kind.hasChoices = false) (v : Value) :
    c.chosen v = .error (.noChoices c.kind.name) := by
  rw [chosen, hk]
  rfl

theorem chosen_of_choices (hk : c.kind.hasChoices = true) (v : Value) :
    c.chosen v = v.shown >>= fun s =>
      if c.options.contains s then .ok (.text s) else .error (.notAChoice s c.name) := by
  rw [chosen, hk]
  rfl

theorem chosen_eq_ok (hk : c.kind.hasChoices = true) :
    c.chosen v = .ok w ↔ ∃ s, v.shown = .ok s ∧ c.Offers s ∧ w = .text s := by
  rw [chosen_of_choices hk, bind_eq_ok]
  refine exists_congr fun s => and_congr_right fun _ => ?_
  rw [← contains_options]
  cases c.options.contains s <;> simp [eq_comm]

theorem chosen_error (hk : c.kind.hasChoices = true) :
    c.chosen v = .error f ↔ v.shown = .error f ∨
      ∃ s, v.shown = .ok s ∧ ¬c.Offers s ∧ f = .notAChoice s c.name := by
  rw [chosen_of_choices hk, bind_eq_error]
  refine or_congr_right (exists_congr fun s => and_congr_right fun _ => ?_)
  rw [← contains_options]
  cases c.options.contains s <;> simp [eq_comm]

theorem emitted_toggle (hk : c.kind = .toggle) (v : Value) :
    c.emitted v = Domain.boolean.coerce v := if_pos hk

theorem emitted_other (hk : c.kind ≠ .toggle) (v : Value) : c.emitted v = .ok v := if_neg hk

/-- A toggle alone refuses a value, over the value. -/
theorem emitted_error (h : c.emitted v = .error f) : c.kind = .toggle ∧ ∃ p, f = .notCoercible p := by
  by_cases hk : c.kind = .toggle
  · rw [emitted_toggle hk] at h
    rcases Domain.coerce_error h with ⟨-, hd, -⟩ | hp
    · cases hd
    · exact ⟨hk, hp⟩
  · rw [emitted_other hk] at h
    cases h

end Control

namespace Field
variable {f : Field} {t : FieldType} {settings settings' : Settings} {v : Value} {s : String}

/-- A field that does not show with a text shows with no value. -/
theorem unshowable_of_text (h : f.Unshowable (.text s)) (v : Value) : f.Unshowable v := by
  unfold Unshowable at h ⊢
  cases ht : f.type.known? with
  | none => simpa only [ht] using h
  | some t =>
    simp only [ht] at h ⊢
    exact ⟨h.1, .inr (h.2.resolve_left (by simp [Value.hasLongInt]))⟩

/-- The choices of a control stay what they are when a text is chosen; those are
    selected that stand for it. -/
theorem control_with_text {error error' : Option String} {c c' : Control}
    (h : f.control t settings v error = .ok c) (hk : c.kind.hasChoices = true)
    (h' : f.control t settings' (.text s) error' = .ok c') :
    c'.kind = c.kind ∧
      c'.choices = c.choices.map fun o => { o with selected := o.value == s } := by
  have hp := control_presents h
  have hp' := control_presents h'
  have hkind : c'.kind = c.kind := hp'.kind.trans hp.kind.symm
  have hcs := hp.choices
  have hcs' := hp'.choices
  rw [if_pos hk] at hcs
  rw [hkind, if_pos hk] at hcs'
  obtain ⟨s₀, -, hcs⟩ := showChoices_eq hcs
  obtain ⟨s', hs', hcs'⟩ := showChoices_eq hcs'
  obtain rfl : s = s' := Except.ok.inj hs'
  refine ⟨hkind, ?_⟩
  rw [hcs, hcs', List.map_map]
  rfl

end Field

namespace Engine
variable {e e' x y : Engine} {c : Control} {name : String} {v w : Value} {f : Fault}

/-! ## One value set -/

/-- Whether a form became another by a value for a name: all else is as it was. -/
structure Sets (e : Engine) (name : String) (v : Value) (e' : Engine) : Prop where
  form : e'.form = e.form
  schema : e'.schema = e.schema
  value : e'.state.values.lookup name = some v
  others : ∀ n, n ≠ name → e'.state.values.lookup n = e.state.values.lookup n
  keys : Entries.keys e'.state.values = Entries.keys e.state.values
  errors : e'.state.errors = e.state.errors
  status : e'.state.status = e.state.status
  history : e'.history = e.history
  calls : e'.calls = e.calls
  trace : e'.trace = e.trace

theorem set_sets (hn : name ∈ Entries.keys e.state.values) (v : Value) :
    (e.set name v).2 = .ok () ∧ e.Sets name v (e.set name v).1 := by
  rw [set_declared (Entries.isSome_lookup.2 hn)]
  refine ⟨rfl, rfl, rfl, ?value, fun n hne => ?others, ?keys, rfl, rfl, ?_, ?_, ?_⟩
  case value => simp [Entries.lookup_put]
  case others => simp [Entries.lookup_put, hne]
  case keys => simp [Entries.keys_put, hn]
  all_goals simp [history, calls, trace, note, Event.status?, Event.call?, Event.isSpan]

section
variable {passed : Except Fault Value}

theorem accept_result (hn : c.name ∈ Entries.keys e.state.values) (passed : Except Fault Value) :
    (e.accept c passed).2 = passed.map fun _ => () := by
  cases passed with
  | ok w => exact (set_sets hn w).1
  | error f => rfl

theorem accept_sets (hn : c.name ∈ Entries.keys e.state.values) (hp : passed = .ok w) :
    e.Sets c.name w (e.accept c passed).1 := by
  rw [hp]
  exact (set_sets hn w).2

theorem accept_error (hp : passed = .error f) : e.accept c passed = (e, .error f) := by
  rw [hp]
  rfl

end

/-! ## Actions -/

/-- Anything that is done to a form in use: an operation, or a value that is
    entered or chosen in a control, whenever that was rendered. -/
inductive Action where
  | perform (op : Operation)
  | emit (c : Control) (v : Value)
  | choose (c : Control) (v : Value)

/-- A form after an action, whatever came of it. -/
def act (depth : Nat) (handler? : Option Handler) (e : Engine) : Action → Engine
  | .perform op => (e.perform depth handler? op).1
  | .emit c v => (e.emit c v).1
  | .choose c v => (e.choose c v).1

/-- A form after actions in turn. -/
def actAll (depth : Nat) (handler? : Option Handler) (e : Engine) (actions : List Action) :
    Engine :=
  actions.foldl (act depth handler?) e

theorem reaches_accept (e : Engine) (c : Control) (passed : Except Fault Value) :
    e.Reaches (e.accept c passed).1 := by
  cases passed with
  | ok v => exact reaches_set e c.name v
  | error f => exact .refl

theorem reaches_act (depth : Nat) (handler? : Option Handler) (e : Engine) (action : Action) :
    e.Reaches (e.act depth handler? action) := by
  cases action with
  | perform op => exact (tracks_reaches handler?).perform depth e op
  | emit c v => exact reaches_accept e c _
  | choose c v => exact reaches_accept e c _

/-- **Whatever is done to a form is made of single changes.** -/
theorem reaches_actAll (depth : Nat) (handler? : Option Handler) (actions : List Action) :
    ∀ e : Engine, e.Reaches (e.actAll depth handler? actions) := by
  induction actions with
  | nil => exact fun _ => .refl
  | cons action actions ih =>
    exact fun e => (reaches_act depth handler? e action).trans (ih _)

/-! ## Controls that are rendered -/

/-- A control that is rendered is that of a field that counts. -/
theorem field_of_render (hd : e.form.IsDeclared) {settings : Settings} {shown : Rendered}
    (h : e.render settings = .ok shown) (hc : c ∈ shown.controls) :
    ∃ f ∈ e.form.ownFields, e.ShowsAs settings f c :=
  forall₂_mem_left (forall₂_of_render hd h).flip c hc

/-- The name of a control that is rendered is one that the form has values for. -/
theorem name_of_render (hd : e.form.IsDeclared) (hn : e'.HasNames) (hf : e'.form = e.form)
    {settings : Settings} {shown : Rendered} (h : e.render settings = .ok shown)
    (hc : c ∈ shown.controls) : c.name ∈ Entries.keys e'.state.values := by
  obtain ⟨f, hm, t, -, hfc⟩ := field_of_render hd h hc
  rw [← Entries.isSome_lookup, hn.isSome_lookup, hf, (Field.control_presents hfc).name]
  exact List.mem_map_of_mem (Form.mem_of_mem_ownFields hm)

/-- **Controls never go stale.**  Whatever is done to a form after a control is
    rendered, and however often: a value that is entered in the control is set
    for its name, as it is or, by a toggle, as true or false, and all else stays
    as it is.  Only a toggle refuses a value, one that cannot be taken as true or
    false, and then nothing changes.  The name is never unknown. -/
theorem controls_never_go_stale {form : Form} (hd : form.IsDeclared) {strict traced : Bool}
    {e₀ : Engine} (hm : mount form strict traced = .ok e₀) (depth : Nat)
    (handler? : Option Handler) (actions : List Action)
    (hx : Passes e₀ x (e₀.actAll depth handler? actions))
    (hy : Passes x y (e₀.actAll depth handler? actions)) {settings : Settings} {shown : Rendered}
    (hs : x.render settings = .ok shown) (hc : c ∈ shown.controls) (v : Value) :
    (c.kind ≠ .toggle → (y.emit c v).2 = .ok () ∧ y.Sets c.name v (y.emit c v).1) ∧
    (c.kind = .toggle →
      (∀ w, Domain.boolean.coerce v = .ok w →
        (∃ b, w = .bool b) ∧ (y.emit c v).2 = .ok () ∧ y.Sets c.name w (y.emit c v).1) ∧
      ∀ f, Domain.boolean.coerce v = .error f →
        (∃ p, f = .notCoercible p) ∧ y.emit c v = (y, .error f)) ∧
    ∀ n, (y.emit c v).2 ≠ .error (.unknownField n) := by
  have hform : x.form = form := hx.1.form_eq.trans (mount_eq_ok hm).2.1
  have hnames : y.HasNames :=
    Reaches.keeps Step.hasNames (hx.1.trans hy.1) (hasNames_of_mount hm)
  have hn : c.name ∈ Entries.keys y.state.values :=
    name_of_render (hform ▸ hd) hnames hy.1.form_eq hs hc
  have passed : ∀ w, c.emitted v = .ok w →
      (y.emit c v).2 = .ok () ∧ y.Sets c.name w (y.emit c v).1 := fun w hw =>
    ⟨(accept_result hn _).trans (map_eq_ok.2 ⟨w, hw, rfl⟩), accept_sets hn hw⟩
  refine ⟨fun hk => passed v (Control.emitted_other hk v),
    fun hk => ⟨fun w hw => ?taken, fun f hf => ?refused⟩, fun n h => ?unknown⟩
  case taken =>
    exact ⟨Domain.coerce_has hw, passed w ((Control.emitted_toggle hk v).trans hw)⟩
  case refused =>
    have hf := (Control.emitted_toggle hk v).trans hf
    exact ⟨(Control.emitted_error hf).2, accept_error hf⟩
  case unknown =>
    obtain ⟨-, p, hp⟩ := Control.emitted_error (map_eq_error.1 ((accept_result hn _).symm.trans h))
    cases hp

/-- A box and a line that were rendered at the start, after a submit, a reset and
    values that were entered in both. -/
theorem controls_never_go_stale_reset :
    let agree : Field := { name := "ok", label := "OK", type := .declared .checkbox }
    let who : Field :=
      { name := "who", label := "Who", type := .declared .text,
        rules := [⟨.required, .null, "Who?"⟩] }
    let form : Form := { fields := [agree, who] }
    form.IsDeclared ∧ ∃ e₀ shown box line, mount form false false = .ok e₀ ∧
      e₀.render {} = .ok shown ∧ shown.controls = [box, line] ∧
      let y := e₀.actAll maxDepth none [.emit line (.text "Ann"), .perform .submit,
        .emit box (.text "maybe"), .perform .reset, .emit line (.list [])]
      y.state.values = [("ok", .bool false), ("who", .list [])] ∧
      y.Sets "who" (.text "Bob") (y.emit line (.text "Bob")).1 ∧
      y.Sets "ok" (.bool true) (y.emit box (.text "on")).1 ∧
      y.emit box (.text "maybe") = (y, .error (.notCoercible .unreadable)) := by
  intro agree who form
  have hd : form.IsDeclared := by
    simp only [Form.IsDeclared, form, List.forall_mem_cons]
    exact ⟨⟨_, rfl⟩, ⟨_, rfl⟩, by simp⟩
  have hm : mount form false false = .ok _ := rfl
  refine ⟨hd, _, _, _, _, hm, rfl, rfl, ?_⟩
  intro y
  have hr : Reaches _ y := reaches_actAll maxDepth none _ _
  have entered := fun c hc => controls_never_go_stale (c := c) hd hm maxDepth none _
    ⟨.refl, hr⟩ ⟨hr, .refl⟩ (show render _ {} = .ok _ from rfl) hc
  obtain ⟨line, -⟩ := entered _ (List.mem_cons_of_mem _ List.mem_cons_self) (.text "Bob")
  obtain ⟨-, on, -⟩ := entered _ List.mem_cons_self (.text "on")
  obtain ⟨-, maybe, -⟩ := entered _ List.mem_cons_self (.text "maybe")
  exact ⟨by decide +kernel, (line (by decide)).2, ((on rfl).1 _ rfl).2.2, ((maybe rfl).2 _ rfl).2⟩

/-! ## Choosing -/

/-- A field that counts shows as the control of its name. -/
theorem control_of_render (hd : e.form.IsDeclared) {settings : Settings} {shown : Rendered}
    (h : e.render settings = .ok shown) {f : Field} (hf : f ∈ e.form.ownFields) :
    ∃ c, shown.control f.name = .ok c ∧ e.ShowsAs settings f c := by
  have hfind := (e.form.find?_ownFields f.name).trans (Form.mem_ownFields.1 hf)
  obtain ⟨c, hc, hfc⟩ := find?_of_forall₂ (forall₂_of_render hd h) (q := (·.name = f.name))
    (fun g c ⟨t, _, hgc⟩ => by rw [(Field.control_presents hgc).name]) hfind
  exact ⟨c, by rw [Rendered.control, hc], hfc⟩

/-- A form that shows still does after a text is set. -/
theorem shows_of_sets (hd : e.form.IsDeclared) {settings : Settings} {shown : Rendered}
    (h : e.render settings = .ok shown) {s : String} (hs : e.Sets name (.text s) e')
    (settings' : Settings) : ∃ shown', e'.render settings' = .ok shown' := by
  have hshows : ¬e.form.Unshowable e.state.values := by
    rw [← render_faults (fun f hf => hd.isKey hf) settings, ← exists_ok_iff]
    exact ⟨shown, h⟩
  rw [exists_ok_iff, render_faults fun f hf => (hs.form ▸ hd).isKey hf]
  rintro ⟨f, hf, hu⟩
  refine hshows ⟨f, hs.form ▸ hf, ?_⟩
  by_cases hn : f.name = name
  · rw [Schema.valueOf, hn, hs.value] at hu
    exact Field.unshowable_of_text hu _
  · rwa [Schema.valueOf, hs.others f.name hn] at hu

/-- A control with choices shows again after a text is set for its name, with the
    same choices, of which those are selected that stand for the text. -/
theorem shows_again (hd : e.form.IsDeclared) {settings : Settings} {shown : Rendered}
    (h : e.render settings = .ok shown) (hc : c ∈ shown.controls)
    (hk : c.kind.hasChoices = true) {s : String} (hs : e.Sets c.name (.text s) e')
    (settings' : Settings) : ∃ shown' c', e'.render settings' = .ok shown' ∧
      shown'.control c.name = .ok c' ∧ c'.kind = c.kind ∧
      c'.choices = c.choices.map fun o => { o with selected := o.value == s } := by
  obtain ⟨shown', h'⟩ := shows_of_sets hd h hs settings'
  obtain ⟨f, hf, t, ht, hfc⟩ := field_of_render hd h hc
  obtain ⟨c', hc', t', ht', hfc'⟩ :=
    control_of_render (hs.form ▸ hd) h' (f := f) (hs.form ▸ hf)
  obtain rfl : t' = t := TypeTag.declared.inj (ht'.symm.trans ht)
  have hname : f.name = c.name := (Field.control_presents hfc).name.symm
  rw [hname, Schema.valueOf, hs.value] at hfc'
  exact ⟨shown', c', h', hname ▸ hc', Field.control_with_text hfc hk hfc'⟩

/-- **Choosing round-trips**, at every point of every run of a form.  A control
    that has choices takes a value iff it offers its text.  Then the text is set
    for its name and all else stays as it is; and the form shows again, with the
    same choices in that control, of which those are selected that stand for the
    text: at least one, unless nothing is chosen in a select.  Any other value is
    refused, and every value by a control that has no choices, and then nothing
    changes. -/
theorem choosing_round_trips {form : Form} (hd : form.IsDeclared) {strict traced : Bool}
    {e₀ : Engine} (hm : mount form strict traced = .ok e₀) (depth : Nat)
    (handler? : Option Handler) (actions : List Action)
    (hx : Passes e₀ x (e₀.actAll depth handler? actions)) {settings : Settings} {shown : Rendered}
    (hs : x.render settings = .ok shown) (hc : c ∈ shown.controls) (v : Value) :
    (c.kind.hasChoices = false → x.choose c v = (x, .error (.noChoices c.kind.name))) ∧
    (c.kind.hasChoices = true →
      ((x.choose c v).2 = .ok () ↔ ∃ s, v.shown = .ok s ∧ c.Offers s) ∧
      (∀ f, (x.choose c v).2 = .error f → (x.choose c v).1 = x ∧
        (f = .integerTooLong ∧ v.hasLongInt = true ∨
          ∃ s, v.shown = .ok s ∧ ¬c.Offers s ∧ f = .notAChoice s c.name)) ∧
      ∀ s, v.shown = .ok s → c.Offers s →
        x.Sets c.name (.text s) (x.choose c v).1 ∧
        ∀ settings', ∃ shown' c', (x.choose c v).1.render settings' = .ok shown' ∧
          shown'.control c.name = .ok c' ∧ c'.kind = c.kind ∧
          c'.choices = c.choices.map (fun o => { o with selected := o.value == s }) ∧
          ((∃ o ∈ c'.choices, o.selected = true) ∨ c.kind = .select ∧ s = "")) := by
  have hform : x.form = form := hx.1.form_eq.trans (mount_eq_ok hm).2.1
  have hdx : x.form.IsDeclared := hform ▸ hd
  have hnames : x.HasNames := Reaches.keeps Step.hasNames hx.1 (hasNames_of_mount hm)
  have hn : c.name ∈ Entries.keys x.state.values := name_of_render hdx hnames rfl hs hc
  refine ⟨fun hk => accept_error (Control.chosen_of_no_choices hk v), fun hk => ?_⟩
  have result : (x.choose c v).2 = (c.chosen v).map fun _ => () := accept_result hn _
  refine ⟨?takes, fun f hf => ?refuses, fun s hvs ho => ?sets⟩
  case takes =>
    rw [result, map_eq_ok]
    simp [Control.chosen_eq_ok hk]
  case refuses =>
    rw [result, map_eq_error] at hf
    refine ⟨congrArg Prod.fst (accept_error hf), ?_⟩
    rcases (Control.chosen_error hk).1 hf with hv | hv
    · exact .inl ⟨Value.shown_only v f hv, Value.shown_faults.1 ⟨f, hv⟩⟩
    · exact .inr hv
  case sets =>
    have hset : x.Sets c.name (.text s) (x.choose c v).1 :=
      accept_sets hn ((Control.chosen_eq_ok hk).2 ⟨s, hvs, ho, rfl⟩)
    refine ⟨hset, fun settings' => ?_⟩
    obtain ⟨shown', c', hs', hc', hkind, hchoices⟩ := shows_again hdx hs hc hk hset settings'
    refine ⟨shown', c', hs', hc', hkind, hchoices, ?_⟩
    rcases ho with ⟨o, hmem, rfl⟩ | hnothing
    · exact .inl ⟨_, hchoices ▸ List.mem_map_of_mem hmem, beq_self_eq_true o.value⟩
    · exact .inr hnothing

/-- A select that stands for a text and a number, of which the text was chosen:
    the number can be chosen then, its label cannot, and a box has no choices. -/
theorem choosing_round_trips_number :
    let agree : Field := { name := "ok", label := "OK", type := .declared .checkbox }
    let plan : Field :=
      { name := "plan", label := "Plan", type := .declared .select,
        choices := some [⟨"Free", .text "free"⟩, ⟨"Ten", .number (.whole 10)⟩] }
    let form : Form := { fields := [agree, plan] }
    let box : Control := { kind := .toggle, name := "ok", label := "OK", value := .bool false }
    let select (v : Value) (choices : List ShownChoice) : Control :=
      { kind := .select, name := "plan", label := "Plan", value := v, choices,
        emptyLabel := .text "Select an option" }
    let first := select (.text "") [⟨"Free", "free", false⟩, ⟨"Ten", "10", false⟩]
    let c := select (.text "free") [⟨"Free", "free", true⟩, ⟨"Ten", "10", false⟩]
    form.IsDeclared ∧ ∃ e₀, mount form false false = .ok e₀ ∧
      let x := e₀.actAll maxDepth none [.choose first (.text "free"), .perform .submit]
      e₀.render {} = .ok ⟨none, [box, first], .text "Submit"⟩ ∧
      x.render {} = .ok ⟨none, [box, c], .text "Submit"⟩ ∧
      x.choose box (.text "free") = (x, .error (.noChoices "toggle")) ∧
      (x.choose c (.text "Ten")).2 ≠ .ok () ∧
      x.Sets "plan" (.text "10") (x.choose c (.number (.whole 10))).1 ∧
      ∃ shown' c', (x.choose c (.number (.whole 10))).1.render {} = .ok shown' ∧
        shown'.control "plan" = .ok c' ∧
        c'.choices = [⟨"Free", "free", false⟩, ⟨"Ten", "10", true⟩] := by
  intro agree plan form box select first c
  have hd : form.IsDeclared := by
    simp only [Form.IsDeclared, form, List.forall_mem_cons]
    exact ⟨⟨_, rfl⟩, ⟨_, rfl⟩, by simp⟩
  have hm : mount form false false = .ok _ := rfl
  refine ⟨hd, _, hm, ?_⟩
  intro x
  have hs : x.render {} = .ok ⟨none, [box, c], .text "Submit"⟩ := by decide +kernel
  have hx : Passes _ x x := ⟨reaches_actAll maxDepth none _ _, .refl⟩
  have choosing := fun d hc => choosing_round_trips (c := d) hd hm maxDepth none _ hx hs hc
  have refused := (choosing box (by simp) (.text "free")).1 rfl
  obtain ⟨takes, -, -⟩ := (choosing c (by simp) (.text "Ten")).2 rfl
  obtain ⟨-, -, sets⟩ := (choosing c (by simp) (.number (.whole 10))).2 rfl
  have offers : c.Offers "10" := .inl ⟨⟨"Ten", "10", false⟩, by simp [c, select], rfl⟩
  obtain ⟨hset, shows⟩ := sets "10" (by decide +kernel) offers
  obtain ⟨shown', c', hs', hc', -, hchoices, -⟩ := shows {}
  refine ⟨by decide +kernel, hs, refused, fun h => ?_, hset, shown', c', hs', hc', hchoices⟩
  obtain ⟨s, hshown, ho⟩ := takes.1 h
  obtain rfl : "Ten" = s := Except.ok.inj hshown
  revert ho
  rw [← Control.contains_options]
  decide +kernel

end Engine
end Formulary
