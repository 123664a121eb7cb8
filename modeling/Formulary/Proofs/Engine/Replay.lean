/-
  Replaying a log: what values and messages a form has follows from its events.

  * `Passes` are the points of a run, and `exists_point` finds one for each
    beginning of its events;
  * `Form.replay` are the values that events in turn leave; `Unjudged` and
    `Standing` tell whether a verdict on them still stands, and which;
  * `state_is_replay`: at every point of every run, the midst of a submit
    included, the values are those of the replay and the messages those of the
    standing verdict.
-/
import Formulary.Proofs.Engine.Run

namespace Formulary

/-! ## Events in turn -/

/-- The values that an event leaves, given those that the form starts from. -/
def Event.onValues (start values : Entries) : Event → Entries
  | .set name v => Entries.put name v values
  | .reset => start
  | _ => values

/-- The values that events in turn leave of those that a form starts from. -/
def Form.replay (form : Form) (events : List Event) : Entries :=
  let start := (State.initial form.fields).values
  events.foldl (Event.onValues start) start

/-- Whether an event makes all messages anew. -/
def Event.rejudges : Event → Bool
  | .validated _ | .reset => true
  | _ => false

/-- Whether no validation has come to an end since the latest reset. -/
def Unjudged (events : List Event) : Prop :=
  ∀ before r after, events = before ++ .validated r :: after → .reset ∈ after

/-- Whether this is the result of the latest validation, after these events,
    with no reset since. -/
def Standing (events before : List Event) (r : Result) : Prop :=
  ∃ after, events = before ++ .validated r :: after ∧ ∀ ev ∈ after, ev.rejudges = false

section
variable {events before : List Event} {ev : Event} {r r' : Result}

theorem Form.replay_concat (form : Form) :
    form.replay (events ++ [ev]) =
      ev.onValues (State.initial form.fields).values (form.replay events) := by
  rw [replay, List.foldl_append]
  rfl

/-- An event in which no verdict is given or lost leaves it as it is. -/
theorem Unjudged.of_concat (hev : ev.rejudges = false) (h : Unjudged (events ++ [ev])) :
    Unjudged events := by
  intro before r after he
  have hr : Event.reset ∈ after ++ [ev] := h before r (after ++ [ev]) (by simp [he])
  rcases List.mem_append.1 hr with hr | hr
  · exact hr
  · obtain rfl := List.mem_singleton.1 hr
    cases hev

theorem not_unjudged_validated : ¬ Unjudged (events ++ [.validated r]) := by
  intro h
  have hr : Event.reset ∈ [] := h events r [] rfl
  cases hr

/-- The verdict that stands after one more event either comes with it or has
    stood before. -/
theorem standing_concat :
    Standing (events ++ [ev]) before r ↔
      (before = events ∧ ev = .validated r) ∨ (ev.rejudges = false ∧ Standing events before r) := by
  constructor
  · rintro ⟨after, he, ha⟩
    rcases concat_eq_append_cons.1 he with ⟨rfl, rfl, -⟩ | ⟨rest, rfl, rfl⟩
    · exact .inl ⟨rfl, rfl⟩
    · exact .inr ⟨ha ev (by simp), rest, rfl, fun x hx => ha x (by simp [hx])⟩
  · rintro (⟨rfl, rfl⟩ | ⟨hev, after, rfl, ha⟩)
    · exact ⟨[], rfl, by simp⟩
    · exact ⟨after ++ [ev], by simp,
        List.forall_mem_append.2 ⟨ha, List.forall_mem_singleton.2 hev⟩⟩

end

namespace Engine

/-! ## Points of a run -/

/-- Whether a form is reached on the way from one to another.  Each change adds
    its event to the log, so these are the points of the run between them. -/
def Passes (e x e' : Engine) : Prop := e.Reaches x ∧ x.Reaches e'

section
variable {a b e e' x : Engine} {name : String} {v : Value}

theorem Step.events_eq (h : Step a b) :
    b.events = a.events ∨ ∃ ev, b.events = a.events ++ [ev] := by
  cases h with
  | set => exact .inr ⟨_, events_note _ _⟩
  | validate => exact .inr ⟨_, events_note _ _⟩
  | reset => exact .inr ⟨_, events_reset a⟩
  | move s => exact .inr ⟨_, events_moveTo a s⟩
  | call => exact .inr ⟨_, events_note _ _⟩
  | span hev => exact .inl (by rw [events_note, hev]; exact List.append_nil _)

/-- Each beginning of the events of a run ends at a point of it. -/
theorem exists_point (h : a.Reaches b) (ha : a.events = []) {before after : List Event}
    (hb : b.events = before ++ after) : ∃ x, Passes a x b ∧ x.events = before := by
  induction h generalizing after with
  | refl =>
    rw [ha] at hb
    obtain ⟨rfl, -⟩ := List.append_eq_nil_iff.1 hb.symm
    exact ⟨a, ⟨.refl, .refl⟩, ha⟩
  | @tail c d hac hcd ih =>
    -- the event of the last change is the last one, if it has one
    have shorter : ∀ after', c.events = before ++ after' →
        ∃ x, Passes a x d ∧ x.events = before := by
      intro after' hc
      obtain ⟨x, ⟨hax, hxc⟩, hx⟩ := ih hc
      exact ⟨x, ⟨hax, hxc.tail hcd⟩, hx⟩
    rcases hcd.events_eq with hd | ⟨ev, hd⟩
    · exact shorter after (hd ▸ hb)
    · rcases List.eq_nil_or_concat after with rfl | ⟨after', ev', rfl⟩
      · exact ⟨d, ⟨hac.tail hcd, .refl⟩, by simpa using hb⟩
      · rw [List.concat_eq_append, ← List.append_assoc, hd] at hb
        exact shorter after' (List.append_inj' hb rfl).1

/-! ## Names -/

/-- Whether a form has values for the names that it starts from. -/
def HasNames (e : Engine) : Prop :=
  Entries.keys e.state.values = Entries.keys (State.initial e.form.fields).values

theorem set_declared (h : (e.state.values.lookup name).isSome = true) :
    e.set name v =
      ({ e with state := { e.state with values := Entries.put name v e.state.values } }.note
        (.set name v), .ok ()) :=
  set_ok (by rw [State.set, if_pos h])

theorem set_undeclared (h : (e.state.values.lookup name).isSome = false) :
    e.set name v = (e, .error (.unknownField (.text name))) :=
  set_error (by rw [State.set, if_neg (by simp [h])])

theorem state_set_eq_ok {s t : State} (h : s.set name v = .ok t) :
    name ∈ Entries.keys s.values ∧ t = { s with values := Entries.put name v s.values } := by
  unfold State.set at h
  split at h
  · rename_i hn
    exact ⟨Entries.isSome_lookup.1 hn, (Except.ok.inj h).symm⟩
  · cases h

theorem hasNames_of_mount {form : Form} {strict traced : Bool}
    (h : mount form strict traced = .ok e) : e.HasNames := by
  obtain ⟨-, hf, hs, -⟩ := mount_eq_ok h
  rw [HasNames, hs, hf]

theorem Step.hasNames (h : Step a b) (ha : a.HasNames) : b.HasNames := by
  unfold HasNames at ha ⊢
  cases h with
  | set hs =>
    obtain ⟨hn, rfl⟩ := state_set_eq_ok hs
    rw [note_state, note_form, Entries.keys_put, if_pos hn, ha]
  | reset => rfl
  | validate | move | call | span => exact ha

/-- The names of a form are those of its fields. -/
theorem HasNames.isSome_lookup (h : e.HasNames) :
    (e.state.values.lookup name).isSome = true ↔ name ∈ e.form.fields.map (·.name) := by
  rw [Entries.isSome_lookup, h, State.initial, Entries.mem_keys_ofList, Entries.keys, List.map_map]
  rfl

end

/-! ## The replay -/

/-- What the events of a form in use say of its state. -/
structure Replays (form : Form) (schema : Schema) (e : Engine) : Prop where
  form_eq : e.form = form
  schema_eq : e.schema = schema
  names : e.HasNames
  values : e.state.values = form.replay e.events
  unjudged : Unjudged e.events → e.state.errors = []
  standing : ∀ before r, Standing e.events before r →
    schema.validate (form.replay before) = .ok r ∧ e.state.errors = r.messages

section
variable {form : Form} {schema : Schema} {a b : Engine} {ev : Event}

theorem replays_of_mount {strict traced : Bool} {e : Engine}
    (h : mount form strict traced = .ok e) : Replays form e.schema e := by
  obtain ⟨-, hf, hs, hl⟩ := mount_eq_ok h
  have he : e.events = [] := by rw [events, hl]; rfl
  refine ⟨hf, rfl, hasNames_of_mount h, by rw [hs, he]; rfl, fun _ => by rw [hs]; rfl, ?_⟩
  rintro before r ⟨after, h, -⟩
  rw [he] at h
  simp at h

/-- A change that leaves the messages as they are keeps the replay. -/
theorem Replays.of_kept (h : Replays form schema a) (hab : Step a b)
    (he : b.events = a.events ++ [ev]) (hr : ev.rejudges = false)
    (hv : b.state.values = ev.onValues (State.initial form.fields).values a.state.values)
    (hm : b.state.errors = a.state.errors) : Replays form schema b where
  form_eq := (Reaches.form_eq (.single hab)).trans h.form_eq
  schema_eq := (Reaches.schema_eq (.single hab)).trans h.schema_eq
  names := hab.hasNames h.names
  values := by rw [hv, he, form.replay_concat, h.values]
  unjudged hu := hm.trans (h.unjudged (Unjudged.of_concat hr (he ▸ hu)))
  standing before r hst := by
    rw [he, standing_concat] at hst
    rcases hst with ⟨-, rfl⟩ | ⟨-, hst⟩
    · cases hr
    · rw [hm]
      exact h.standing before r hst

/-- Every change keeps the replay. -/
theorem Step.replays (hab : Step a b) (h : Replays form schema a) : Replays form schema b := by
  have hn := hab.hasNames h.names
  cases hab with
  | @set name v s hs =>
    obtain ⟨-, rfl⟩ := state_set_eq_ok hs
    exact h.of_kept (.set hs) (events_note _ _) rfl rfl rfl
  | move s => exact h.of_kept (.move a s) (events_moveTo a s) rfl rfl rfl
  | call data => exact h.of_kept (.call a data) (events_note a _) rfl rfl rfl
  | @span ev hev =>
    have he : (a.note ev).events = a.events := by rw [events_note, hev]; exact List.append_nil _
    refine ⟨h.form_eq, h.schema_eq, hn, ?_, ?_, ?_⟩ <;> rw [he]
    · exact h.values
    · exact h.unjudged
    · exact h.standing
  -- a verdict is the one that stands now, for the values as they are
  | @validate r hv =>
    have he : ({ a with state := a.state.record r }.note (.validated r)).events =
      a.events ++ [.validated r] := events_note _ _
    refine ⟨h.form_eq, h.schema_eq, hn, ?values, ?unjudged, ?standing⟩
    case values =>
      rw [he, form.replay_concat, ← h.values]
      rfl
    case unjudged =>
      rw [he]
      exact fun hu => absurd hu not_unjudged_validated
    case standing =>
      intro before r' hst
      rw [he, standing_concat] at hst
      rcases hst with ⟨rfl, hst⟩ | ⟨hst, -⟩
      · cases hst
        rw [← h.values, ← h.schema_eq]
        exact ⟨hv, rfl⟩
      · cases hst
  | reset =>
    refine ⟨h.form_eq, h.schema_eq, hn, ?values, fun _ => rfl, ?standing⟩
    case values =>
      rw [events_reset, form.replay_concat, ← h.form_eq]
      rfl
    case standing =>
      intro before r hst
      rw [events_reset, standing_concat] at hst
      rcases hst with ⟨-, hst⟩ | ⟨hst, -⟩ <;> cases hst

/-- **The replay.**  Every beginning of the events of a run ends at a point of
    it.  At every point, in the midst of a submit and of its handler too, the
    values are those that the form starts from with all sets and resets up to
    there applied in turn; the messages are none if no validation has come to an
    end since the latest reset, and else those of the latest one, made of the
    values as they were then.  What is done to the form is an event: a value for
    a name that it has, a validation that comes to an end, and a reset.  Another
    name is refused and a validation may fault, and then nothing changes. -/
theorem state_is_replay {strict traced : Bool} {e₀ : Engine}
    (hm : mount form strict traced = .ok e₀) (depth : Nat) (handler? : Option Handler)
    (ops : List Operation) :
    let e := e₀.performAll depth handler? ops
    (∀ before after, e.events = before ++ after → ∃ x, Passes e₀ x e ∧ x.events = before) ∧
    ∀ x, Passes e₀ x e →
      x.state.values = form.replay x.events ∧
      (Unjudged x.events → x.state.errors = []) ∧
      (∀ before r, Standing x.events before r →
        e₀.schema.validate (form.replay before) = .ok r ∧ x.state.errors = r.messages) ∧
      (∀ name v, name ∈ form.fields.map (·.name) →
        (x.set name v).2 = .ok () ∧ (x.set name v).1.events = x.events ++ [.set name v]) ∧
      (∀ name v, name ∉ form.fields.map (·.name) →
        x.set name v = (x, .error (.unknownField (.text name)))) ∧
      (∀ r, x.validate.2 = .ok r → x.validate.1.events = x.events ++ [.validated r]) ∧
      (∀ f, x.validate.2 = .error f → x.validate.1 = x) ∧
      x.reset.events = x.events ++ [.reset] := by
  intro e
  have h₀ : e₀.events = [] := by rw [events, (mount_eq_ok hm).2.2.2]; rfl
  refine ⟨fun before after he => ?_, fun x hx => ?_⟩
  · exact exists_point ((tracks_reaches handler?).performAll depth ops e₀) h₀ he
  · have h : Replays form e₀.schema x := hx.1.keeps Step.replays (replays_of_mount hm)
    have hd : ∀ name, (x.state.values.lookup name).isSome = true ↔
        name ∈ form.fields.map (·.name) := by
      intro name
      rw [h.names.isSome_lookup, h.form_eq]
    refine ⟨h.values, h.unjudged, h.standing, fun name v hn => ?_, fun name v hn => ?_,
      fun r hr => ?_, fun f hf => ?_, events_reset x⟩
    · rw [set_declared ((hd name).2 hn)]
      exact ⟨rfl, events_note _ _⟩
    · exact set_undeclared (Bool.eq_false_iff.2 fun hs => hn ((hd name).1 hs))
    · cases hv : x.schema.validate x.state.values with
      | ok r' =>
        rw [validate_ok hv] at hr ⊢
        cases hr
        exact events_note _ _
      | error f => simp [validate_error hv] at hr
    · cases hv : x.schema.validate x.state.values with
      | ok r => simp [validate_ok hv] at hf
      | error f' => rw [validate_error hv]

end

/-- A handler that empties the field and validates before it fails: both last
    beyond the submit. -/
theorem state_is_replay_emptied :
    let field : Field :=
      { name := "q", label := "Query", type := .declared .text,
        rules := [⟨.required, .null, "What for?"⟩] }
    let form : Form := { fields := [field] }
    let emptying : Handler := fun _ _ =>
      .set "q" (.text "") fun _ => .validate fun _ => .fail (.handlerFailed "no")
    ∃ e₀, mount form false false = .ok e₀ ∧
      let e := e₀.performAll maxDepth (some emptying) [.set "q" (.text "a"), .submit]
      Passes e₀ e e ∧ e.state.values = [("q", .text "")] ∧
        e.state.errors = [("q", "What for?")] ∧
        e.set "colour" .null = (e, .error (.unknownField (.text "colour"))) := by
  intro field form emptying
  have hm : mount form false false = .ok _ := rfl
  refine ⟨_, hm, ?_⟩
  intro e
  have he : Passes _ e e := ⟨(tracks_reaches (some emptying)).performAll maxDepth _ _, .refl⟩
  obtain ⟨hv, -, hs, -, hn, -⟩ := (state_is_replay hm maxDepth (some emptying) _).2 e he
  let accepted : Result := ⟨true, [], some [("q", .text "a")]⟩
  let refused : Result := ⟨false, [⟨"q", "required", "What for?", .text ""⟩], none⟩
  let before : List Event := [.set "q" (.text "a"), .moved .validating, .validated accepted,
    .moved .valid, .called [("q", .text "a")] .valid, .set "q" (.text "")]
  have hst : Standing e.events before refused :=
    ⟨[.moved .idle], by decide +kernel, by simp [Event.rejudges]⟩
  exact ⟨he, hv.trans (by decide +kernel), (hs before refused hst).2,
    hn _ _ (by simp [form, field])⟩

end Engine
end Formulary
