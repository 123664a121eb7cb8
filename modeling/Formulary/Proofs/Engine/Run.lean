/-
  Runs of a form in use.

  * `Engine.perform` answers one operation and `Engine.performAll` a run of
    them, with a handler and a depth to which submits may nest;
  * `Engine.events` is the log without its spans, the first event first;
  * `submitWithin_fault` and `submitWithin_ok`, with the equations of
    `conclude`, say all that a submit can do;
  * `Tracks.performAll`: a relation that holds across each thing a run consists
    of, nested submits included, holds across the run;
  * `tracks_reaches`: a run is made of single changes (`Engine.Step`), so
    whatever these keep holds at every point of it.
-/
import Formulary.Engine
import Formulary.Proofs.Schema
import Mathlib.Logic.Relation

namespace Formulary

/-- Where an item of a list with one more at its end stands: it is the last, or
    it stands before. -/
theorem concat_eq_append_cons {α : Type} {l before after : List α} {x m : α} :
    l ++ [x] = before ++ m :: after ↔
      (before = l ∧ m = x ∧ after = []) ∨
        ∃ rest, after = rest ++ [x] ∧ l = before ++ m :: rest := by
  constructor
  · intro h
    rcases List.eq_nil_or_concat after with rfl | ⟨rest, y, rfl⟩
    · obtain ⟨rfl, rfl⟩ := List.append_singleton_inj.1 h
      exact .inl ⟨rfl, rfl, rfl⟩
    · rw [List.concat_eq_append, ← List.cons_append, ← List.append_assoc] at h
      obtain ⟨rfl, rfl⟩ := List.append_singleton_inj.1 h
      exact .inr ⟨rest, List.concat_eq_append, rfl⟩
  · rintro (⟨rfl, rfl, rfl⟩ | ⟨rest, rfl, rfl⟩)
    · rfl
    · simp

/-- The data of a result is there iff it is valid. -/
theorem Schema.data_of_validate {schema : Schema} {values : Entries} {r : Result}
    (h : schema.validate values = .ok r) (hr : r.isValid = true) : ∃ data, r.data = some data := by
  obtain ⟨os, -, rfl⟩ := map_eq_ok.1 h
  simp only [Schema.summary] at hr ⊢
  exact ⟨_, if_pos hr⟩

namespace Engine

/-! ## Operations -/

/-- What can be asked of a form in use. -/
inductive Operation where
  | set (name : String) (v : Value)
  | validate
  | submit
  | reset

/-- Performs an operation; submits nest up to a depth.  With `maxDepth` this is
    `Engine.submit`. -/
def perform (depth : Nat) (handler? : Option Handler) (e : Engine) :
    Operation → Engine × Except Fault (Option Result)
  | .set name v => ((e.set name v).1, (e.set name v).2.map fun _ => none)
  | .validate => (e.validate.1, e.validate.2.map some)
  | .submit =>
    ((e.submitWithin handler? depth).1, (e.submitWithin handler? depth).2.map some)
  | .reset => (e.reset, .ok none)

/-- A form after operations in turn, whatever came of each. -/
def performAll (depth : Nat) (handler? : Option Handler) (e : Engine) (ops : List Operation) :
    Engine :=
  ops.foldl (fun e op => (e.perform depth handler? op).1) e

/-- The events but spans, the first one first. -/
def events (e : Engine) : List Event := e.log.reverse.filter fun x => !x.isSpan

/-! ## What each part of an operation changes -/

section
variable (e : Engine) (s : Status) (sp : Span) (ev : Event)

@[simp] theorem note_form : (e.note ev).form = e.form := rfl
@[simp] theorem note_schema : (e.note ev).schema = e.schema := rfl
@[simp] theorem note_state : (e.note ev).state = e.state := rfl

@[simp] theorem moveTo_form : (e.moveTo s).form = e.form := rfl
@[simp] theorem moveTo_schema : (e.moveTo s).schema = e.schema := rfl
@[simp] theorem moveTo_state : (e.moveTo s).state = { e.state with status := s } := rfl

@[simp] theorem enter_form : (e.enter sp).form = e.form := by unfold enter; split <;> rfl
@[simp] theorem enter_schema : (e.enter sp).schema = e.schema := by unfold enter; split <;> rfl
@[simp] theorem enter_state : (e.enter sp).state = e.state := by unfold enter; split <;> rfl

@[simp] theorem leave_form : (e.leave sp).form = e.form := by unfold leave; split <;> rfl
@[simp] theorem leave_schema : (e.leave sp).schema = e.schema := by unfold leave; split <;> rfl
@[simp] theorem leave_state : (e.leave sp).state = e.state := by unfold leave; split <;> rfl

theorem events_note : (e.note ev).events = e.events ++ if ev.isSpan then [] else [ev] := by
  cases h : ev.isSpan <;> simp [events, note, h]

@[simp] theorem events_moveTo : (e.moveTo s).events = e.events ++ [.moved s] :=
  events_note _ (.moved s)

@[simp] theorem events_enter : (e.enter sp).events = e.events := by
  unfold enter
  split
  · simp [events_note, Event.isSpan]
  · rfl

@[simp] theorem events_leave : (e.leave sp).events = e.events := by
  unfold leave
  split
  · simp [events_note, Event.isSpan]
  · rfl

@[simp] theorem events_reset : e.reset.events = e.events ++ [.reset] := events_note _ .reset

end

/-- What is read off the log but spans is read off the events. -/
theorem filterMap_events {α : Type} (e : Engine) {f : Event → Option α}
    (hf : ∀ ev, ev.isSpan = true → f ev = none) :
    e.events.filterMap f = e.log.reverse.filterMap f := by
  rw [events, List.filterMap_filter]
  congr 1
  funext ev
  cases h : ev.isSpan
  · rfl
  · simp [hf ev h]

theorem history_eq (e : Engine) : e.history = .idle :: e.events.filterMap Event.status? := by
  rw [history, filterMap_events]
  rintro (_ | _) h <;> simp_all [Event.isSpan, Event.status?]

theorem calls_eq (e : Engine) : e.calls = e.events.filterMap Event.call? := by
  rw [calls, filterMap_events]
  rintro (_ | _) h <;> simp_all [Event.isSpan, Event.call?]

/-! ## Values and validation -/

section
variable {e : Engine} {name : String} {v : Value} {r : Result} {f : Fault}

theorem set_ok {s : State} (h : e.state.set name v = .ok s) :
    e.set name v = ({ e with state := s }.note (.set name v), .ok ()) := by
  rw [set, h]

theorem set_error (h : e.state.set name v = .error f) : e.set name v = (e, .error f) := by
  rw [set, h]

theorem validate_ok (h : e.schema.validate e.state.values = .ok r) :
    e.validate = ({ e with state := e.state.record r }.note (.validated r), .ok r) := by
  rw [validate, State.validate, h]; rfl

theorem validate_error (h : e.schema.validate e.state.values = .error f) :
    e.validate = (e, .error f) := by
  rw [validate, State.validate, h]; rfl

end

/-- An operation but a submit adds an event at most, which neither moves the
    status nor calls the handler. -/
theorem events_perform {e : Engine} {op : Operation} (h : op ≠ .submit) (depth : Nat)
    (handler? : Option Handler) :
    ∃ added, (e.perform depth handler? op).1.events = e.events ++ added ∧
      ∀ ev ∈ added, ev.status? = none ∧ ev.call? = none := by
  have one : ∀ (s : State) (ev : Event), ev.isSpan = false →
      (({ e with state := s } : Engine).note ev).events = e.events ++ [ev] := by
    intro s ev hev
    rw [events_note, hev]
    rfl
  cases op with
  | set name v =>
    cases hs : e.state.set name v with
    | ok s =>
      exact ⟨[.set name v], by rw [perform, set_ok hs, one _ _ rfl],
        by simp [Event.status?, Event.call?]⟩
    | error f => exact ⟨[], by simp [perform, set_error hs], by simp⟩
  | validate =>
    cases hv : e.schema.validate e.state.values with
    | ok r =>
      exact ⟨[.validated r], by rw [perform, validate_ok hv, one _ _ rfl],
        by simp [Event.status?, Event.call?]⟩
    | error f => exact ⟨[], by simp [perform, validate_error hv], by simp⟩
  | submit => exact absurd rfl h
  | reset => exact ⟨[.reset], events_reset e, by simp [Event.status?, Event.call?]⟩

/-! ## Submits -/

/-- The span of a submit. -/
def whole (e : Engine) : Span := .submit (e.form.title.getD "")

/-- The span of the validation in a submit. -/
def part (e : Engine) : Span := .validation e.schema.size

/-- A form whose submit has come to the validation. -/
def begun (e : Engine) : Engine := ((e.enter e.whole).moveTo .validating).enter e.part

/-- A form whose submit has validated with this result. -/
def judged (e : Engine) (r : Result) : Engine :=
  ({ e.begun with state := e.begun.state.record r }.note (.validated r)).leave e.part

/-- A form whose handler is called with this data. -/
def calling (e : Engine) (data : Entries) : Engine :=
  (e.enter .handler).note (.called data e.state.status)

section
variable (e : Engine) (r : Result) (data : Entries)

@[simp] theorem begun_form : e.begun.form = e.form := by simp [begun]
@[simp] theorem begun_schema : e.begun.schema = e.schema := by simp [begun]
@[simp] theorem begun_state : e.begun.state = { e.state with status := .validating } := by
  simp [begun]
@[simp] theorem begun_events : e.begun.events = e.events ++ [.moved .validating] := by
  simp [begun]

@[simp] theorem judged_form : (e.judged r).form = e.form := by simp [judged]
@[simp] theorem judged_schema : (e.judged r).schema = e.schema := by simp [judged]
@[simp] theorem judged_state :
    (e.judged r).state = { e.state with errors := r.messages, status := .validating } := by
  simp [judged, State.record]
@[simp] theorem judged_events :
    (e.judged r).events = e.events ++ [.moved .validating, .validated r] := by
  have h : ({ e.begun with state := e.begun.state.record r } : Engine).events =
    e.begun.events := rfl
  rw [judged, events_leave, events_note, h, begun_events]
  simp [Event.isSpan]

@[simp] theorem calling_form : (e.calling data).form = e.form := by simp [calling]
@[simp] theorem calling_schema : (e.calling data).schema = e.schema := by simp [calling]
@[simp] theorem calling_state : (e.calling data).state = e.state := by simp [calling]
@[simp] theorem calling_events :
    (e.calling data).events = e.events ++ [.called data e.state.status] := by
  simp [calling, events_note, Event.isSpan]

end

section
variable {e : Engine} {r : Result} {f : Fault} {handler? : Option Handler}
variable {submit : Engine → Engine × Except Fault Result}

theorem begun_validate_ok (h : e.schema.validate e.state.values = .ok r) :
    e.begun.validate =
      ({ e.begun with state := e.begun.state.record r }.note (.validated r), .ok r) :=
  validate_ok (by simpa using h)

/-- A validation that faults ends the submit where it is. -/
theorem submitWithin_fault (depth : Nat) (h : e.schema.validate e.state.values = .error f) :
    e.submitWithin handler? (depth + 1) = ((e.begun.leave e.part).leave e.whole, .error f) := by
  have hv : e.begun.validate = (e.begun, .error f) := validate_error (by simpa using h)
  simp only [begun, whole, part] at hv ⊢
  rw [submitWithin]
  simp only [hv]

theorem submitWithin_ok (depth : Nat) (h : e.schema.validate e.state.values = .ok r) :
    e.submitWithin handler? (depth + 1) =
      (((e.judged r).conclude (submitWithin handler? depth) handler? r).1.leave e.whole,
        ((e.judged r).conclude (submitWithin handler? depth) handler? r).2) := by
  have hv := begun_validate_ok h
  simp only [judged, begun, whole, part] at hv ⊢
  rw [submitWithin]
  simp only [hv]

theorem conclude_invalid (hr : r.isValid = false) :
    e.conclude submit handler? r = ((e.moveTo .invalid).moveTo .idle, .ok r) := by
  rw [conclude, if_neg (by simp [hr])]

theorem conclude_unhandled (hr : r.isValid = true) :
    e.conclude submit none r = ((e.moveTo .valid).moveTo .idle, .ok r) := by
  rw [conclude, if_pos hr]; rfl

theorem conclude_handled {handler : Handler} (hr : r.isValid = true) :
    e.conclude submit (some handler) r =
      let data := r.data.getD []
      let x := (e.moveTo .valid).calling data
      let y := (handler x.log data).run submit x
      ((y.1.leave .handler).moveTo .idle, y.2.map fun _ => r) := by
  rw [conclude, if_pos hr]; rfl

end

/-! ## Relations across a run -/

/-- A relation between forms that holds across each thing that runs consist of:
    what a handler can do, and the ways into and out of a submit. -/
structure Tracks (handler? : Option Handler) (R : Engine → Engine → Prop) : Prop where
  refl : ∀ e, R e e
  trans : ∀ {a b c}, R a b → R b c → R a c
  set : ∀ e name v, R e (e.set name v).1
  validate : ∀ e, R e e.validate.1
  reset : ∀ e, R e e.reset
  fault : ∀ {e f}, e.schema.validate e.state.values = .error f →
    R e ((e.begun.leave e.part).leave e.whole)
  invalid : ∀ {e r}, e.schema.validate e.state.values = .ok r → r.isValid = false →
    R e ((((e.judged r).moveTo .invalid).moveTo .idle).leave e.whole)
  unhandled : ∀ {e r}, handler? = none → e.schema.validate e.state.values = .ok r →
    r.isValid = true → R e ((((e.judged r).moveTo .valid).moveTo .idle).leave e.whole)
  called : ∀ {e r}, handler?.isSome → e.schema.validate e.state.values = .ok r →
    r.isValid = true → R e (((e.judged r).moveTo .valid).calling (r.data.getD []))
  returned : ∀ e s, R e (((e.leave .handler).moveTo .idle).leave s)

namespace Tracks
variable {handler? : Option Handler} {R : Engine → Engine → Prop} (hR : Tracks handler? R)
include hR

/-- What holds across the submits of a script holds across the script. -/
theorem run {submit : Engine → Engine × Except Fault Result} (hs : ∀ e, R e (submit e).1)
    (s : Script) : ∀ e, R e (s.run submit e).1 := by
  induction s with
  | done => exact hR.refl
  | fail f => exact hR.refl
  | look next ih => exact fun e => ih e.state e
  | set name v next ih => exact fun e => hR.trans (hR.set e name v) (ih _ _)
  | validate next ih => exact fun e => hR.trans (hR.validate e) (ih _ _)
  | submit next ih => exact fun e => hR.trans (hs e) (ih _ _)
  | reset next ih => exact fun e => hR.trans (hR.reset e) (ih _)

/-- The submits that a handler makes are less deep than the one it serves. -/
theorem submitWithin (depth : Nat) : ∀ e, R e (e.submitWithin handler? depth).1 := by
  induction depth with
  | zero => exact hR.refl
  | succ depth ih =>
    intro e
    cases hv : e.schema.validate e.state.values with
    | error f => rw [submitWithin_fault depth hv]; exact hR.fault hv
    | ok r =>
      rw [submitWithin_ok depth hv]
      cases hr : r.isValid with
      | false => rw [conclude_invalid hr]; exact hR.invalid hv hr
      | true =>
        cases handler? with
        | none => rw [conclude_unhandled hr]; exact hR.unhandled rfl hv hr
        | some handler =>
          rw [conclude_handled hr]
          exact hR.trans (hR.called rfl hv hr) (hR.trans (hR.run ih _ _) (hR.returned _ _))

theorem perform (depth : Nat) (e : Engine) (op : Operation) :
    R e (e.perform depth handler? op).1 := by
  cases op with
  | set name v => exact hR.set e name v
  | validate => exact hR.validate e
  | submit => exact hR.submitWithin depth e
  | reset => exact hR.reset e

theorem performAll (depth : Nat) (ops : List Operation) :
    ∀ e, R e (e.performAll depth handler? ops) := by
  induction ops with
  | nil => exact hR.refl
  | cons op ops ih => exact fun e => hR.trans (hR.perform depth e op) (ih _)

end Tracks

/-! ## Single changes -/

/-- A change of a form that a run can make, one event at most. -/
inductive Step : Engine → Engine → Prop
  | set {e name v s} : e.state.set name v = .ok s →
      Step e ({ e with state := s }.note (.set name v))
  | validate {e r} : e.schema.validate e.state.values = .ok r →
      Step e ({ e with state := e.state.record r }.note (.validated r))
  | reset (e) : Step e e.reset
  | move (e s) : Step e (e.moveTo s)
  | call (e data) : Step e (e.note (.called data e.state.status))
  | span (e) {ev} : ev.isSpan = true → Step e (e.note ev)

/-- Any number of changes. -/
abbrev Reaches : Engine → Engine → Prop := Relation.ReflTransGen Step

section
variable (e : Engine)

theorem reaches_set (name : String) (v : Value) : e.Reaches (e.set name v).1 := by
  cases h : e.state.set name v with
  | ok s => rw [set_ok h]; exact .single (.set h)
  | error f => rw [set_error h]

theorem reaches_validate : e.Reaches e.validate.1 := by
  cases h : e.schema.validate e.state.values with
  | ok r => rw [validate_ok h]; exact .single (.validate h)
  | error f => rw [validate_error h]

theorem reaches_enter (s : Span) : e.Reaches (e.enter s) := by
  unfold enter
  split
  · exact .single (.span e rfl)
  · exact .refl

theorem reaches_leave (s : Span) : e.Reaches (e.leave s) := by
  unfold leave
  split
  · exact .single (.span e rfl)
  · exact .refl

theorem reaches_begun : e.Reaches e.begun :=
  (reaches_enter e _).trans ((Relation.ReflTransGen.single (.move _ _)).trans (reaches_enter _ _))

theorem reaches_judged {r : Result} (h : e.schema.validate e.state.values = .ok r) :
    e.Reaches (e.judged r) := by
  have hb : e.begun.schema.validate e.begun.state.values = .ok r := by simpa using h
  exact (reaches_begun e).trans (.trans (.single (.validate hb)) (reaches_leave _ _))

theorem reaches_calling (data : Entries) : e.Reaches (e.calling data) := by
  have h := Step.call (e.enter .handler) data
  rw [enter_state] at h
  exact (reaches_enter e _).tail h

end

/-- **A run is made of single changes.** -/
theorem tracks_reaches (handler? : Option Handler) : Tracks handler? Reaches where
  refl _ := .refl
  trans := .trans
  set := reaches_set
  validate := reaches_validate
  reset e := .single (.reset e)
  fault _ := (reaches_begun _).trans ((reaches_leave _ _).trans (reaches_leave _ _))
  invalid hv _ :=
    .trans (((reaches_judged _ hv).tail (.move _ _)).tail (.move _ _)) (reaches_leave _ _)
  unhandled _ hv _ :=
    .trans (((reaches_judged _ hv).tail (.move _ _)).tail (.move _ _)) (reaches_leave _ _)
  called _ hv _ := ((reaches_judged _ hv).tail (.move _ _)).trans (reaches_calling _ _)
  returned _ _ := .trans ((reaches_leave _ _).tail (.move _ _)) (reaches_leave _ _)

/-- What single changes keep, a form has at every point that it reaches. -/
theorem Reaches.keeps {I : Engine → Prop} (hI : ∀ {a b}, Step a b → I a → I b) {e e' : Engine}
    (h : e.Reaches e') (he : I e) : I e' := by
  induction h with
  | refl => exact he
  | tail _ hs ih => exact hI hs ih

/-- The form stays as it was when it was mounted. -/
theorem Reaches.form_eq {e e' : Engine} (h : e.Reaches e') : e'.form = e.form := by
  refine h.keeps (I := fun x => x.form = e.form) (fun {a b} hs ha => ?_) rfl
  cases hs <;> exact ha

/-- The schema stays as it was when the form was mounted. -/
theorem Reaches.schema_eq {e e' : Engine} (h : e.Reaches e') : e'.schema = e.schema := by
  refine h.keeps (I := fun x => x.schema = e.schema) (fun {a b} hs ha => ?_) rfl
  cases hs <;> exact ha

/-- A form is traced or not for as long as it is in use. -/
theorem Reaches.traced_eq {e e' : Engine} (h : e.Reaches e') : e'.traced = e.traced := by
  refine h.keeps (I := fun x => x.traced = e.traced) (fun {a b} hs ha => ?_) rfl
  cases hs <;> exact ha

/-! ## Mounted forms -/

theorem mount_eq_ok {form : Form} {strict traced : Bool} {e : Engine}
    (h : mount form strict traced = .ok e) : Schema.compile strict form.fields = .ok e.schema ∧
      e.form = form ∧ e.state = .initial form.fields ∧ e.log = [] := by
  obtain ⟨schema, hs, he⟩ := bind_eq_ok.1 h
  cases he
  exact ⟨hs, rfl, rfl, rfl⟩

/-- A form whose schema is one of fields, with types that can be looked up. -/
structure Sound (e : Engine) : Prop where
  schema : e.schema.OfFields
  types : ∀ f ∈ e.form.fields, f.type.isKey = true

theorem sound_of_mount {form : Form} {strict traced : Bool} {e : Engine}
    (h : mount form strict traced = .ok e) : e.Sound := by
  obtain ⟨hs, hf, -, -⟩ := mount_eq_ok h
  exact ⟨Schema.ofFields_of_compile hs, hf ▸ fun f hf => Schema.isKey_of_compile hs hf⟩

theorem Reaches.sound {e e' : Engine} (h : e.Reaches e') (he : e.Sound) : e'.Sound :=
  ⟨h.schema_eq ▸ he.schema, h.form_eq ▸ he.types⟩

end Engine
end Formulary
