/-
  What a call does to the session of the id that it names.

  * `Effect` is what can be done to a session, and `Effect.on` the store after it;
  * `run_effect`: the effect and the answer of a tool on sessions depend on what
    is found under the id alone, and the effect is one of the tool
    (`Effect.Of`): in particular only a submit with a valid verdict records
    data, and these are its data.
-/
import Formulary.Proofs.Service.Lookup
import Formulary.Proofs.Service.Request

namespace Formulary.Service

/-- What can be done to the session of an id. -/
inductive Effect where
  | nothing
  /-- A form is mounted, with nothing submitted. -/
  | mount (e : Engine)
  /-- The form that is mounted comes to be this one. -/
  | update (e : Engine)
  /-- So it does, and its data are recorded. -/
  | record (e : Engine) (data : Entries)
  | unmount

namespace Effect

/-- The store after an effect on the session of an id. -/
def on (id : String) (s : Store) : Effect → Store
  | .nothing => s
  | .mount e => s.mount (.text id) e
  | .update e => s.update ⟨.text id, .text id, e⟩ e
  | .record e data => (s.update ⟨.text id, .text id, e⟩ e).submit (.text id) data
  | .unmount => s.unmount (.text id)

/-- The cell of an id after an effect on its session. -/
def onCell (id : String) (cell : Option Session × Option Entries) :
    Effect → Option Session × Option Entries
  | .nothing => cell
  | .mount e => (some ⟨.text id, .text id, e⟩, none)
  | .update e => (cell.1.map ({ · with engine := e }), cell.2)
  | .record e data => (cell.1.map ({ · with engine := e }), some data)
  | .unmount => (none, none)

/-- An effect on the session of an id is one on its cell, and on no other. -/
theorem cell_on (eff : Effect) (s : Store) (id id' : String) : (eff.on id' s).cell id =
    if id = id' then eff.onCell id' (s.cell id') else s.cell id := by
  cases eff with
  | nothing => by_cases h : id = id' <;> simp [on, onCell, h]
  | mount e => exact Store.cell_mount
  | update e =>
    rw [on, Store.cell_update rfl]
    by_cases h : id = id' <;> simp [h, onCell, Store.cell]
  | record e data =>
    rw [on, Store.cell_submit, Store.cell_update rfl, Store.find?_update rfl]
    by_cases h : id = id' <;> simp [h, onCell, Store.cell]
  | unmount => exact Store.cell_unmount

theorem textual_on {s : Store} (hs : s.Textual) (eff : Effect) (id : String) :
    (eff.on id s).Textual := by
  cases eff with
  | nothing => exact hs
  | mount e => exact hs.mount
  | update e => exact hs.update
  | record e data => exact hs.update.submit
  | unmount => exact hs.unmount _

end Effect

/-- Whether a session is found whose values are valid, with these data. -/
def Passing (found : Option Session) (data : Entries) : Prop :=
  ∃ x r, found = some x ∧ x.engine.schema.validate x.engine.state.values = .ok r ∧
    r.isValid = true ∧ r.data = some data

/-- Whether an effect is one of a tool, given what is found under the id. -/
def Effect.Of (found : Option Session) (t : Tool) : Effect → Prop
  | .nothing => t ≠ .unmountForm ∧ (t = .submitForm → ∀ data, ¬ Passing found data)
  | .mount _ => t = .mountForm
  | .update _ => t = .setFieldValue ∨ (t = .submitForm ∧ ∀ data, ¬ Passing found data)
  | .record _ data => t = .submitForm ∧ Passing found data
  | .unmount => t = .unmountForm

section
variable {settings : Settings} {s : Store} {arguments : Value} {id : String} {x : Session}
variable {e : Engine} {r : Result} {data : Entries}

theorem update_eq (hx : x.key = .text id) :
    s.update x e = s.update ⟨.text id, .text id, e⟩ e := by
  unfold Store.update
  rw [hx]

theorem find_missing (h : s.find? (.text id) = none) :
    s.find (.text id) = .error (.notMounted (.text id)) := by
  unfold Store.find
  rw [if_neg (by simp [SessionId.isKey]), h]
  rfl

/-! ## Requests that name an id -/

theorem setRequest_missing (hid : argument arguments "session_id" = .ok (.text id))
    (hx : s.find? (.text id) = none) :
    setRequest s arguments = .error (.notMounted (.text id)) := by
  unfold setRequest
  rw [hid]
  simp only [bind, Except.bind, find_missing hx]

/-- The name and the value that a call to give a field a value gives. -/
def assignment (arguments : Value) : Except Fault (Value × Value) := do
  let name ← argument arguments "name"
  return (name, (← argument? arguments "value").getD .null)

theorem setRequest_found (hid : argument arguments "session_id" = .ok (.text id))
    (hx : s.find? (.text id) = some x) :
    setRequest s arguments = (assignment arguments).map fun p => (.text id, x, p.1, p.2) := by
  unfold setRequest assignment
  rw [hid]
  simp only [bind, Except.bind, Store.find_text_eq_ok.2 hx]
  cases argument arguments "name" with
  | error f => rfl
  | ok name => cases argument? arguments "value" <;> rfl

theorem submitRequest_missing (hid : argument arguments "session_id" = .ok (.text id))
    (hx : s.find? (.text id) = none) :
    submitRequest s arguments = .error (.notMounted (.text id)) := by
  unfold submitRequest
  rw [hid]
  simp only [bind, Except.bind, find_missing hx]

theorem submitRequest_found (hid : argument arguments "session_id" = .ok (.text id))
    (hx : s.find? (.text id) = some x) : submitRequest s arguments = .ok (.text id, x) := by
  unfold submitRequest
  rw [hid]
  simp only [bind, Except.bind, Store.find_text_eq_ok.2 hx]
  rfl

/-! ## Submits -/

/-- What is answered to a submit that comes to a verdict. -/
def verdictAnswer (settings : Settings) (id : String) (e : Engine) (r : Result) :
    Except Fault Value :=
  (view settings (.text id) e).map fun es => .record (es ++
    [("submitted", .bool r.isValid),
      ("data", if r.isValid then .record (r.data.getD []) else .null)])

theorem submitForm_valid (h : submitRequest s arguments = .ok (.text id, x))
    (hx : x.key = .text id ∧ x.id = .text id)
    (he : x.engine.submit (some recording) = (e, .ok r)) (hr : r.isValid = true) :
    submitForm settings s arguments =
      ((Effect.record e (r.data.getD [])).on id s, verdictAnswer settings id e r) := by
  have hd : ∀ s' : Store, (s'.submit (.text id) (r.data.getD [])).submission? (.text id) =
      some (r.data.getD []) := by
    intro s'
    rw [Store.submission?_submit, if_pos rfl]
  unfold submitRequest at h
  unfold submitForm
  simp only [h, he, hr, if_true, hx.2, hd, verdictAnswer, Effect.on, update_eq hx.1]
  rfl

theorem submitForm_invalid (h : submitRequest s arguments = .ok (.text id, x))
    (hx : x.key = .text id) (he : x.engine.submit (some recording) = (e, .ok r))
    (hr : r.isValid = false) :
    submitForm settings s arguments =
      ((Effect.update e).on id s, verdictAnswer settings id e r) := by
  unfold submitRequest at h
  unfold submitForm
  simp only [h, he, hr, Bool.false_eq_true, if_false, verdictAnswer, Effect.on, update_eq hx]

/-! ## The effect of each tool -/

variable (settings) in
theorem setFieldValue_effect (hid : argument arguments "session_id" = .ok (.text id))
    {found : Option Session} (hf : ∀ x, found = some x → x.key = .text id) :
    ∃ eff a, Effect.Of found .setFieldValue eff ∧ ∀ s : Store, s.find? (.text id) = found →
      setFieldValue settings s arguments = (eff.on id s, a) := by
  cases found with
  | none =>
    exact ⟨.nothing, _, by simp [Effect.Of], fun s hs =>
      setFieldValue_unread (setRequest_missing hid hs)⟩
  | some x =>
    have hk := hf x rfl
    cases hr : assignment arguments with
    | error f =>
      refine ⟨.nothing, .error f, by simp [Effect.Of], fun s hs => setFieldValue_unread ?_⟩
      rw [setRequest_found hid hs, hr]
      rfl
    | ok p =>
      have hreq : ∀ s : Store, s.find? (.text id) = some x →
          setRequest s arguments = .ok (.text id, x, p.1, p.2) := by
        intro s hs
        rw [setRequest_found hid hs, hr]
        rfl
      rcases setField_cases x.engine p.1 p.2 with ⟨f, hn, -⟩ | ⟨n, old, e, -, -, hn, -⟩
      · refine ⟨.update x.engine, .error f, .inl rfl, fun s hs => ?_⟩
        rw [setFieldValue_refused (hreq s hs) hn, update_eq hk]
        rfl
      · refine ⟨.update e, (view settings (.text id) e).map .record, .inl rfl, fun s hs => ?_⟩
        rw [setFieldValue_set (hreq s hs) hn, update_eq hk]
        rfl

variable (settings) in
theorem submitForm_effect (hid : argument arguments "session_id" = .ok (.text id))
    {found : Option Session} (hf : ∀ x, found = some x → x.key = .text id ∧ x.id = .text id) :
    ∃ eff a, Effect.Of found .submitForm eff ∧ ∀ s : Store, s.find? (.text id) = found →
      submitForm settings s arguments = (eff.on id s, a) := by
  cases found with
  | none =>
    refine ⟨.nothing, _, ⟨by simp, fun _ data => ?_⟩, fun s hs =>
      submitForm_unread (submitRequest_missing hid hs)⟩
    rintro ⟨x, r, h, -⟩
    cases h
  | some x =>
    have hk := hf x rfl
    have hreq : ∀ s : Store, s.find? (.text id) = some x →
        submitRequest s arguments = .ok (.text id, x) := fun s hs => submitRequest_found hid hs
    have hpass : ∀ {data}, Passing (some x) data → ∃ r,
        x.engine.schema.validate x.engine.state.values = .ok r ∧ r.isValid = true ∧
          r.data = some data := by
      rintro data ⟨x', r, h, hr⟩
      cases h
      exact ⟨r, hr⟩
    cases hv : x.engine.schema.validate x.engine.state.values with
    | error f =>
      obtain ⟨e, he, -⟩ := submit_fault hv
      refine ⟨.update e, .error f, .inr ⟨rfl, fun data hp => ?_⟩, fun s hs => ?_⟩
      · obtain ⟨r, hr, -⟩ := hpass hp
        simp [hv] at hr
      · rw [submitForm_fault (hreq s hs) he, update_eq hk.1]
        rfl
    | ok r =>
      obtain ⟨e, he, -⟩ := submit_result hv
      cases hr : r.isValid with
      | false =>
        refine ⟨.update e, _, .inr ⟨rfl, fun data hp => ?_⟩, fun s hs =>
          submitForm_invalid (hreq s hs) hk.1 he hr⟩
        obtain ⟨r', hr', hv', -⟩ := hpass hp
        rw [hv] at hr'
        cases hr'
        simp [hr] at hv'
      | true =>
        obtain ⟨data, hd⟩ := Schema.data_of_validate hv hr
        refine ⟨.record e (r.data.getD []), _, ⟨rfl, x, r, rfl, hv, hr, by simp [hd]⟩, fun s hs =>
          submitForm_valid (hreq s hs) hk he hr⟩

theorem unmountForm_text (hid : argument arguments "session_id" = .ok (.text id)) (s : Store) :
    unmountForm s arguments = (Effect.unmount.on id s, .ok (.record
      [("session_id", .text id), ("unmounted", .bool (s.find? (.text id)).isSome)])) := by
  unfold unmountForm
  simp [hid, SessionId.isKey, Value.hasLongInt, Effect.on]

/-- An argument is there iff it can be asked for as one that has to be. -/
theorem argument_eq_ok {name : String} {v : Value} :
    argument arguments name = .ok v ↔ argument? arguments name = .ok (some v) := by
  unfold argument argument?
  split
  · rename_i es
    cases es.lookup name <;> simp
  · simp

theorem given_of_mountRequest {form : Form} {given : Value}
    (h : mountRequest arguments = .ok (form, given)) :
    ∃ given?, argument? arguments "session_id" = .ok given? ∧ given = given?.getD .null := by
  obtain ⟨v, -, h⟩ := bind_eq_ok.1 h
  obtain ⟨form', -, h⟩ := bind_eq_ok.1 h
  obtain ⟨given?, hg, h⟩ := bind_eq_ok.1 h
  cases h
  exact ⟨given?, hg, rfl⟩

variable (settings) in
theorem mountForm_effect (hne : id ≠ "") (hid : argument arguments "session_id" = .ok (.text id))
    (found : Option Session) : ∃ eff a, Effect.Of found .mountForm eff ∧ ∀ s : Store,
      mountForm settings s arguments = (eff.on id s, a) := by
  cases hr : mountRequest arguments with
  | error f => exact ⟨.nothing, .error f, by simp [Effect.Of], fun s => mountForm_unread hr⟩
  | ok p =>
    obtain ⟨form, given⟩ := p
    have hg : given = .text id := by
      obtain ⟨given?, hg, rfl⟩ := given_of_mountRequest hr
      rw [argument_eq_ok, hg] at hid
      obtain rfl := Except.ok.inj hid
      rfl
    have hi : ∀ s, mountId s given = (s, .text id) := by
      intro s
      rw [mountId, hg, if_neg (by simpa [Value.isFalsy] using hne)]
    cases hm : Engine.mount form settings.strict settings.tracing with
    | error f =>
      refine ⟨.nothing, .error f, by simp [Effect.Of], fun s => ?_⟩
      rw [mountForm_refused hr hm, hi]
      rfl
    | ok e =>
      refine ⟨.mount e, (view settings (.text id) e).map .record, rfl, fun s => ?_⟩
      rw [mountForm_mounted hr hm, hi]
      rfl

variable (settings) in
/-- **What a tool does** to the session of the id that it is given depends on what
    is found there, and so does the answer.  To mount a form the id must not be
    empty. -/
theorem run_effect {t : Tool} (hne : t = .mountForm → id ≠ "")
    (hid : argument arguments "session_id" = .ok (.text id)) {found : Option Session}
    (hf : ∀ x, found = some x → x.key = .text id ∧ x.id = .text id) :
    ∃ eff a, Effect.Of found t eff ∧ ∀ s : Store, s.find? (.text id) = found →
      run settings s t arguments = (eff.on id s, a) := by
  cases t with
  | validateForm | describeForm | lintForm =>
    exact ⟨.nothing, _, by simp [Effect.Of], fun s _ => rfl⟩
  | mountForm =>
    obtain ⟨eff, a, ho, h⟩ := mountForm_effect settings (hne rfl) hid found
    exact ⟨eff, a, ho, fun s _ => h s⟩
  | setFieldValue => exact setFieldValue_effect settings hid fun x hx => (hf x hx).1
  | submitForm => exact submitForm_effect settings hid hf
  | unmountForm =>
    exact ⟨.unmount, _, rfl, fun s hs => by rw [run, unmountForm_text hid, hs]⟩

/-! ## Calls without an id -/

/-- What a tool on sessions does without an id. -/
theorem run_unnamed {t : Tool} {arguments : Value} {f : Fault}
    (ht : t = .setFieldValue ∨ t = .submitForm ∨ t = .unmountForm)
    (h : argument arguments "session_id" = .error f) (s : Store) :
    run settings s t arguments = (s, .error f) := by
  rcases ht with rfl | rfl | rfl
  · refine setFieldValue_unread ?_
    unfold setRequest
    rw [h]
    rfl
  · refine submitForm_unread ?_
    unfold submitRequest
    rw [h]
    rfl
  · rw [run, unmountForm, h]

/-- Nothing is found under what is no id. -/
theorem run_null {t : Tool} (ht : t = .setFieldValue ∨ t = .submitForm ∨ t = .unmountForm)
    (hs : s.Textual) (h : argument arguments "session_id" = .ok .null) :
    (run settings s t arguments).1 = s := by
  have hn : ∀ x, s.find .null ≠ .ok x := by
    intro x hx
    obtain ⟨id, hid, -⟩ := hs.eq_text_of_find hx
    cases hid
  have hf : ∃ f, s.find .null = .error f := by
    cases hx : s.find .null with
    | error f => exact ⟨f, rfl⟩
    | ok x => exact absurd hx (hn x)
  obtain ⟨f, hf⟩ := hf
  rcases ht with rfl | rfl | rfl
  · have hr : setRequest s arguments = .error f := by
      unfold setRequest
      rw [h]
      simp only [bind, Except.bind, hf]
    rw [run, setFieldValue_unread hr]
  · have hr : submitRequest s arguments = .error f := by
      unfold submitRequest
      rw [h]
      simp only [bind, Except.bind, hf]
    rw [run, submitForm_unread hr]
  · rw [run, unmountForm, h]
    exact hs.unmount_eq_self (by simp)

end

/-! ## Calls in turn -/

/-- A call: the name of a tool, and the arguments. -/
abbrev Call := String × Value

/-- The store after calls in turn. -/
def after (settings : Settings) (s : Store) (calls : List Call) : Store :=
  calls.foldl (fun s c => (call settings s c.1 c.2).1) s

end Formulary.Service
