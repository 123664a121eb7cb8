/-
  Requests: what the tools on sessions read off their arguments, and every way
  in which they end.

  * `mountRequest`, `setRequest` and `submitRequest` are what is read;
  * one equation for each end of a tool says what it leaves and answers;
  * `callAll` is the store after a run of calls, and `sound_callAll` says that it
    is sound.
-/
import Formulary.Proofs.Service.Store
import Formulary.Service

namespace Formulary.Service

/-! ## Requests -/

/-- What a call to mount a form gives: the form, and the id if there is one. -/
def mountRequest (arguments : Value) : Except Fault (Form × Value) := do
  let form ← formArgument arguments
  let form ← Form.load form
  return (form, (← argument? arguments "session_id").getD .null)

/-- What a call to give a field a value gives. -/
def setRequest (s : Store) (arguments : Value) :
    Except Fault (Value × Session × Value × Value) := do
  let id ← argument arguments "session_id"
  let x ← s.find id
  let name ← argument arguments "name"
  return (id, x, name, (← argument? arguments "value").getD .null)

/-- What a call to submit a form gives. -/
def submitRequest (s : Store) (arguments : Value) : Except Fault (Value × Session) := do
  let id ← argument arguments "session_id"
  return (id, ← s.find id)

section
variable {settings : Settings} {s : Store} {arguments id name v : Value} {x : Session} {f : Fault}

theorem find_of_setRequest (h : setRequest s arguments = .ok (id, x, name, v)) :
    s.find id = .ok x := by
  obtain ⟨id', -, h⟩ := bind_eq_ok.1 h
  obtain ⟨x', hx, h⟩ := bind_eq_ok.1 h
  obtain ⟨name', -, h⟩ := bind_eq_ok.1 h
  obtain ⟨v', -, h⟩ := bind_eq_ok.1 h
  cases h
  exact hx

theorem find_of_submitRequest (h : submitRequest s arguments = .ok (id, x)) :
    s.find id = .ok x := by
  obtain ⟨id', -, h⟩ := bind_eq_ok.1 h
  obtain ⟨x', hx, h⟩ := bind_eq_ok.1 h
  cases h
  exact hx

/-! ## Mounting -/

theorem mountForm_unread (h : mountRequest arguments = .error f) :
    mountForm settings s arguments = (s, .error f) := by
  unfold mountRequest at h
  unfold mountForm
  simp only [h]

theorem mountForm_refused {form : Form} {given : Value}
    (h : mountRequest arguments = .ok (form, given))
    (hm : Engine.mount form settings.strict settings.tracing = .error f) :
    mountForm settings s arguments = ((mountId s given).1, .error f) := by
  unfold mountRequest at h
  unfold mountForm
  simp only [h, hm]

theorem mountForm_mounted {form : Form} {given : Value} {e : Engine}
    (h : mountRequest arguments = .ok (form, given))
    (hm : Engine.mount form settings.strict settings.tracing = .ok e) :
    mountForm settings s arguments =
      if SessionId.isKey (mountId s given).2 then
        ((mountId s given).1.mount (mountId s given).2 e,
          if (mountId s given).2.hasLongInt then .error .integerTooLong
          else (view settings (mountId s given).2 e).map .record)
      else ((mountId s given).1, .error .wrongKind) := by
  unfold mountRequest at h
  unfold mountForm
  simp only [h, hm]
  cases SessionId.isKey (mountId s given).2 <;> rfl

theorem mountId_store (s : Store) (given : Value) :
    ∃ n, (mountId s given).1 = { s with generated := n } := by
  unfold mountId
  split
  · exact ⟨_, rfl⟩
  · exact ⟨s.generated, rfl⟩

/-! ## Values -/

theorem setFieldValue_unread (h : setRequest s arguments = .error f) :
    setFieldValue settings s arguments = (s, .error f) := by
  unfold setRequest at h
  unfold setFieldValue
  simp only [h]

theorem setFieldValue_refused (h : setRequest s arguments = .ok (id, x, name, v))
    (hf : setField x.engine name v = (x.engine, .error f)) :
    setFieldValue settings s arguments = (s.update x x.engine, .error f) := by
  unfold setRequest at h
  unfold setFieldValue
  simp only [h, hf]

theorem setFieldValue_set {e : Engine} (h : setRequest s arguments = .ok (id, x, name, v))
    (hf : setField x.engine name v = (e, .ok ())) :
    setFieldValue settings s arguments = (s.update x e, (view settings id e).map .record) := by
  unfold setRequest at h
  unfold setFieldValue
  simp only [h, hf]

/-- A field that is there is given a value; nothing else is. -/
theorem setField_cases (e : Engine) (name v : Value) :
    (∃ f, setField e name v = (e, .error f) ∧
      ∀ n, name = .text n → e.state.values.lookup n = none) ∨
    ∃ n old e', name = .text n ∧ e.state.values.lookup n = some old ∧
      setField e name v = (e', .ok ()) ∧ e.Reaches e' ∧
      e'.state = { e.state with values := Entries.put n v e.state.values } := by
  cases name with
  | text n =>
    cases ho : e.state.values.lookup n with
    | none =>
      have hs : e.state.set n v = .error (.unknownField (.text n)) := by simp [State.set, ho]
      refine .inl ⟨_, Engine.set_error hs, ?_⟩
      rintro n' hn
      cases hn
      exact ho
    | some old =>
      have hs : e.state.set n v =
          .ok { e.state with values := Entries.put n v e.state.values } := by
        simp [State.set, ho]
      exact .inr ⟨n, old, _, rfl, ho, Engine.set_ok hs, .single (.set hs), rfl⟩
  | _ => exact .inl ⟨_, rfl, by simp⟩

/-! ## Submits -/

section
variable {e : Engine} {r : Result}

theorem submit_fault (h : e.schema.validate e.state.values = .error f) :
    ∃ e' : Engine, e.submit (some recording) = (e', .error f) ∧ e.Reaches e' ∧
      e'.state = { e.state with status := .validating } := by
  have hr := (Engine.tracks_reaches (some recording)).fault h
  exact ⟨_, Engine.submitWithin_fault 199 h, hr, by simp⟩

theorem submit_result (h : e.schema.validate e.state.values = .ok r) :
    ∃ e' : Engine, e.submit (some recording) = (e', .ok r) ∧ e.Reaches e' ∧
      e'.state = { e.state with errors := r.messages, status := .idle } := by
  have hr := (Engine.tracks_reaches (some recording)).submitWithin (199 + 1) e
  have hs : e.submit (some recording) = e.submitWithin (some recording) (199 + 1) := rfl
  rw [Engine.submitWithin_ok 199 h] at hs hr
  cases hv : r.isValid with
  | false =>
    rw [Engine.conclude_invalid hv] at hs hr
    exact ⟨_, hs, hr, by simp⟩
  | true =>
    rw [Engine.conclude_handled hv] at hs hr
    exact ⟨_, hs, hr, by simp [recording, Script.run]⟩

end

theorem submitForm_unread (h : submitRequest s arguments = .error f) :
    submitForm settings s arguments = (s, .error f) := by
  unfold submitRequest at h
  unfold submitForm
  simp only [h]

theorem submitForm_fault {e : Engine} (h : submitRequest s arguments = .ok (id, x))
    (he : x.engine.submit (some recording) = (e, .error f)) :
    submitForm settings s arguments = (s.update x e, .error f) := by
  unfold submitRequest at h
  unfold submitForm
  simp only [h, he]

theorem submitForm_result {e : Engine} {r : Result} (h : submitRequest s arguments = .ok (id, x))
    (he : x.engine.submit (some recording) = (e, .ok r)) :
    (submitForm settings s arguments).1 =
        (if r.isValid then (s.update x e).submit x.id (r.data.getD []) else s.update x e) ∧
      ((∃ f, (submitForm settings s arguments).2 = .error f) ↔
        ∃ f, view settings id e = .error f) := by
  unfold submitRequest at h
  unfold submitForm
  simp only [h, he]
  simp only [map_eq_error, and_self]

/-! ## Runs -/

theorem sound_mountForm (hs : s.Sound) : (mountForm settings s arguments).1.Sound := by
  cases hr : mountRequest arguments with
  | error f => rw [mountForm_unread hr]; exact hs
  | ok p =>
    obtain ⟨n, hn⟩ := mountId_store s p.2
    have hg : (mountId s p.2).1.Sound := by
      rw [hn]
      exact ⟨hs.distinct, hs.forms⟩
    cases hm : Engine.mount p.1 settings.strict settings.tracing with
    | error f => rw [mountForm_refused hr hm]; exact hg
    | ok e =>
      rw [mountForm_mounted hr hm]
      split
      · exact hg.mount (Engine.sound_of_mount hm)
      · exact hg

theorem sound_setFieldValue (hs : s.Sound) : (setFieldValue settings s arguments).1.Sound := by
  cases hr : setRequest s arguments with
  | error f => rw [setFieldValue_unread hr]; exact hs
  | ok p =>
    obtain ⟨id, x, name, v⟩ := p
    have hx := hs.forms x (Store.find_eq_ok (find_of_setRequest hr)).1
    rcases setField_cases x.engine name v with ⟨f, hf, -⟩ | ⟨n, old, e, -, -, hf, hre, -⟩
    · rw [setFieldValue_refused hr hf]; exact hs.update hx
    · rw [setFieldValue_set hr hf]; exact hs.update (hre.sound hx)

theorem sound_submitForm (hs : s.Sound) : (submitForm settings s arguments).1.Sound := by
  cases hr : submitRequest s arguments with
  | error f => rw [submitForm_unread hr]; exact hs
  | ok p =>
    obtain ⟨id, x⟩ := p
    have hx := hs.forms x (Store.find_eq_ok (find_of_submitRequest hr)).1
    cases hv : x.engine.schema.validate x.engine.state.values with
    | error f =>
      obtain ⟨e, he, hre, -⟩ := submit_fault hv
      rw [submitForm_fault hr he]
      exact hs.update (hre.sound hx)
    | ok r =>
      obtain ⟨e, he, hre, -⟩ := submit_result hv
      rw [(submitForm_result hr he).1]
      split
      · exact (hs.update (hre.sound hx)).submit
      · exact hs.update (hre.sound hx)

theorem sound_unmountForm (hs : s.Sound) : (unmountForm s arguments).1.Sound := by
  unfold unmountForm
  split
  · exact hs
  · split
    · exact hs
    · exact hs.unmount

theorem sound_run (hs : s.Sound) (t : Tool) : (run settings s t arguments).1.Sound := by
  cases t with
  | validateForm | describeForm | lintForm => exact hs
  | mountForm => exact sound_mountForm hs
  | setFieldValue => exact sound_setFieldValue hs
  | submitForm => exact sound_submitForm hs
  | unmountForm => exact sound_unmountForm hs

theorem call_unknown {tool : String} (h : Tool.ofName? tool = none) :
    (call settings s tool arguments).1 = s := by
  rw [call, h]

theorem call_known {tool : String} {t : Tool} (h : Tool.ofName? tool = some t) :
    call settings s tool arguments = ((run settings s t arguments).1,
      match (run settings s t arguments).2 with
      | .ok v => .ok v
      | .error f => answer f) := by
  rw [call, h]
  dsimp only
  rcases run settings s t arguments with ⟨s', f | v⟩ <;> rfl

theorem sound_call (hs : s.Sound) (tool : String) : (call settings s tool arguments).1.Sound := by
  cases ht : Tool.ofName? tool with
  | none => rw [call_unknown ht]; exact hs
  | some t => rw [call_known ht]; exact sound_run hs t

end

/-- The store after calls in turn, whatever they answer. -/
def callAll (settings : Settings) (calls : List (String × Value)) : Store :=
  calls.foldl (fun s c => (call settings s c.1 c.2).1) {}

theorem sound_callAll (settings : Settings) (calls : List (String × Value)) :
    (callAll settings calls).Sound := by
  suffices ∀ s : Store, s.Sound →
      (calls.foldl (fun s c => (call settings s c.1 c.2).1) s).Sound from
    this {} Store.sound_empty
  induction calls with
  | nil => exact fun s hs => hs
  | cons c calls ih => exact fun s hs => ih _ (sound_call hs c.1)

end Formulary.Service
