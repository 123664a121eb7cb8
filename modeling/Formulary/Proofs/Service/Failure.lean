/-
  Calls that fail.

  A call that answers with an error has changed the store iff it has met an
  integer too long to be written only after that.

  * `Spoils` are the calls that fail after a change;
  * `error_answer_keeps_store_iff`: in every run, a call that answers with an
    error leaves the store as it was iff it is none of these.
-/
import Formulary.Proofs.Control
import Formulary.Proofs.Engine.Home
import Formulary.Proofs.Service.Request

namespace Formulary

theorem Entries.put_eq_self {α : Type} {key : String} {value : α} :
    ∀ {es : List (String × α)}, put key value es = es ↔ es.lookup key = some value
  | [] => by simp [put]
  | (k, v) :: es => by
    unfold put
    by_cases hk : k = key
    · subst hk
      simp [eq_comm]
    · have hb : (key == k) = false := beq_eq_false_iff_ne.2 (Ne.symm hk)
      rw [if_neg hk, List.lookup_cons, hb, List.cons.injEq, eq_self, true_and]
      exact put_eq_self

namespace Service

section
variable {settings : Settings} {s : Store} {arguments id name v : Value} {x : Session} {f : Fault}

/-! ## Calls that fail after a change -/

/-- Whether a call of a tool would change the store before it meets an integer
    too long to be written. -/
inductive Spoils (settings : Settings) (s : Store) (arguments : Value) : Tool → Prop
  /-- A form is mounted, and the id cannot be written or the form not shown. -/
  | mount {form : Form} {given : Value} {e : Engine} :
      mountRequest arguments = .ok (form, given) →
      Engine.mount form settings.strict settings.tracing = .ok e →
      SessionId.isKey (mountId s given).2 = true →
      ((mountId s given).2.hasLongInt = true ∨ form.Unshowable e.state.values) →
      ¬ s.Holds (mountId s given).2 e.state →
      Spoils settings s arguments .mountForm
  /-- A field has another value now, with which the form cannot be shown. -/
  | set {id v old : Value} {x : Session} {name : String} :
      setRequest s arguments = .ok (id, x, .text name, v) →
      x.engine.state.values.lookup name = some old → old ≠ v →
      x.engine.form.Unshowable (Entries.put name v x.engine.state.values) →
      Spoils settings s arguments .setFieldValue
  /-- A submit begins, and its validation has no result. -/
  | begin {id : Value} {x : Session} :
      submitRequest s arguments = .ok (id, x) → x.engine.Overlong →
      x.engine.state.status ≠ .validating →
      Spoils settings s arguments .submitForm
  /-- A submit comes to other messages or data, and the form cannot be shown. -/
  | submit {id : Value} {x : Session} {r : Result} :
      submitRequest s arguments = .ok (id, x) →
      x.engine.schema.validate x.engine.state.values = .ok r →
      x.engine.form.Unshowable x.engine.state.values →
      ¬ ({ x.engine.state with errors := r.messages, status := .idle } = x.engine.state ∧
        (r.isValid = true → s.submission? x.id = r.data)) →
      Spoils settings s arguments .submitForm
  /-- A form is dropped whose id cannot be written. -/
  | unmount {id : Value} {x : Session} :
      argument arguments "session_id" = .ok id → SessionId.isKey id = true →
      s.find? id = some x → id.hasLongInt = true →
      Spoils settings s arguments .unmountForm

/-! ## Views -/

theorem view_faults {e : Engine} (he : e.Sound) :
    (∃ f, view settings id e = .error f) ↔ e.form.Unshowable e.state.values := by
  rw [← Engine.render_faults he.types settings]
  refine exists_congr fun f => ?_
  rw [view, bind_eq_error]
  simp [pure, Except.pure]

/-! ## Mounting -/

theorem spoils_mount : Spoils settings s arguments .mountForm ↔ ∃ form given e,
    mountRequest arguments = .ok (form, given) ∧
      Engine.mount form settings.strict settings.tracing = .ok e ∧
      SessionId.isKey (mountId s given).2 = true ∧
      ((mountId s given).2.hasLongInt = true ∨ form.Unshowable e.state.values) ∧
      ¬ s.Holds (mountId s given).2 e.state := by
  constructor
  · rintro (⟨hr, hm, hk, hf, hc⟩)
    exact ⟨_, _, _, hr, hm, hk, hf, hc⟩
  · rintro ⟨form, given, e, hr, hm, hk, hf, hc⟩
    exact .mount hr hm hk hf hc

section
variable {form : Form} {given : Value} {e : Engine}

/-- A form is mounted, but not shown, only over an integer too long to be
    written. -/
theorem unshowable_of_mounted (hm : Engine.mount form settings.strict settings.tracing = .ok e)
    (h : ∃ f, (if id.hasLongInt then .error .integerTooLong
      else (view settings id e).map Value.record) = .error f) :
    id.hasLongInt = true ∨ form.Unshowable e.state.values := by
  cases hl : id.hasLongInt with
  | true => exact .inl rfl
  | false =>
    simp only [hl, Bool.false_eq_true, if_false, map_eq_error] at h
    right
    rw [← (Engine.mount_eq_ok hm).2.1]
    exact (view_faults (Engine.sound_of_mount hm)).1 h

theorem alike_mounted :
    ((mountId s given).1.mount id e).Alike s ↔ s.Holds id e.state := by
  obtain ⟨n, hn⟩ := mountId_store s given
  rw [hn]
  exact Store.alike_mount

end

theorem alike_mountForm (h : ∃ f, (mountForm settings s arguments).2 = .error f) :
    (mountForm settings s arguments).1.Alike s ↔ ¬ Spoils settings s arguments .mountForm := by
  rw [spoils_mount]
  cases hr : mountRequest arguments with
  | error f =>
    rw [mountForm_unread hr]
    exact iff_of_true (.refl s) (by simp)
  | ok p =>
    obtain ⟨form, given⟩ := p
    obtain ⟨n, hn⟩ := mountId_store s given
    cases hm : Engine.mount form settings.strict settings.tracing with
    | error f =>
      rw [mountForm_refused hr hm, hn]
      refine iff_of_true (.refl s) ?_
      rintro ⟨form', given', e, hr', hm', -⟩
      cases hr'
      simp [hm] at hm'
    | ok e =>
      rw [mountForm_mounted hr hm] at h ⊢
      cases hk : SessionId.isKey (mountId s given).2 with
      | false =>
        simp only [Bool.false_eq_true, if_false, hn]
        refine iff_of_true (.refl s) ?_
        rintro ⟨form', given', e', hr', -, hk', -⟩
        cases hr'
        simp [hk] at hk'
      | true =>
        simp only [hk, if_true] at h ⊢
        have hf := unshowable_of_mounted hm h
        rw [alike_mounted]
        constructor
        · rintro hh ⟨form', given', e', hr', hm', -, -, hc⟩
          cases hr'
          obtain rfl := Except.ok.inj (hm.symm.trans hm')
          exact hc hh
        · intro hc
          by_contra hh
          exact hc ⟨form, given, e, rfl, hm, hk, hf, hh⟩

/-! ## Values -/

theorem spoils_set : Spoils settings s arguments .setFieldValue ↔ ∃ id v old x name,
    setRequest s arguments = .ok (id, x, .text name, v) ∧
      x.engine.state.values.lookup name = some old ∧ old ≠ v ∧
      x.engine.form.Unshowable (Entries.put name v x.engine.state.values) := by
  constructor
  · rintro (_ | ⟨hr, ho, hc, hf⟩)
    exact ⟨_, _, _, _, _, hr, ho, hc, hf⟩
  · rintro ⟨id, v, old, x, name, hr, ho, hc, hf⟩
    exact .set hr ho hc hf

theorem alike_setFieldValue (hs : s.Sound)
    (h : ∃ f, (setFieldValue settings s arguments).2 = .error f) :
    (setFieldValue settings s arguments).1.Alike s ↔
      ¬ Spoils settings s arguments .setFieldValue := by
  rw [spoils_set]
  cases hr : setRequest s arguments with
  | error f =>
    rw [setFieldValue_unread hr]
    exact iff_of_true (.refl s) (by simp)
  | ok p =>
    obtain ⟨id, x, name, v⟩ := p
    have hx := find_of_setRequest hr
    rcases setField_cases x.engine name v with ⟨f, hf, hn⟩ | ⟨n, old, e, rfl, ho, hf, hre, hst⟩
    · rw [setFieldValue_refused hr hf, Store.alike_update hs hx]
      refine iff_of_true rfl ?_
      rintro ⟨id', v', old, x', n, hr', ho, -⟩
      cases hr'
      simp [hn n rfl] at ho
    · rw [setFieldValue_set hr hf] at h ⊢
      rw [Store.alike_update hs hx, hst]
      simp only [map_eq_error] at h
      have hu := (view_faults (hre.sound (hs.forms x (Store.find_eq_ok hx).1))).1 h
      rw [hre.form_eq, hst] at hu
      have hv : { x.engine.state with values := Entries.put n v x.engine.state.values } =
          x.engine.state ↔ old = v := by
        constructor
        · intro hh
          have := ho.symm.trans (Entries.put_eq_self.1 (congrArg State.values hh))
          exact Option.some.inj this
        · rintro rfl
          rw [Entries.put_eq_self.2 ho]
      refine hv.trans ⟨?_, fun hn => ?_⟩
      · rintro rfl ⟨id', v', old', x', n', hr', ho', hc, -⟩
        cases hr'
        exact hc (Option.some.inj (ho'.symm.trans ho))
      · by_contra hc
        exact hn ⟨id, v, old, x, n, rfl, ho, hc, hu⟩

/-! ## Submits -/

theorem spoils_submit : Spoils settings s arguments .submitForm ↔ ∃ id x,
    submitRequest s arguments = .ok (id, x) ∧
      ((x.engine.Overlong ∧ x.engine.state.status ≠ .validating) ∨
        ∃ r, x.engine.schema.validate x.engine.state.values = .ok r ∧
          x.engine.form.Unshowable x.engine.state.values ∧
          ¬ ({ x.engine.state with errors := r.messages, status := .idle } = x.engine.state ∧
            (r.isValid = true → s.submission? x.id = r.data))) := by
  constructor
  · rintro (_ | _ | ⟨hr, hf, hc⟩ | ⟨hr, hv, hf, hc⟩)
    · exact ⟨_, _, hr, .inl ⟨hf, hc⟩⟩
    · exact ⟨_, _, hr, .inr ⟨_, hv, hf, hc⟩⟩
  · rintro ⟨id, x, hr, ⟨hf, hc⟩ | ⟨r, hv, hf, hc⟩⟩
    · exact .begin hr hf hc
    · exact .submit hr hv hf hc

/-- What a submit with a result leaves is what was there iff it comes to the
    same messages and data, from rest. -/
theorem alike_submitted {e : Engine} {r : Result} (hs : s.Sound) (hx : s.find id = .ok x)
    (hv : x.engine.schema.validate x.engine.state.values = .ok r) :
    (if r.isValid then (s.update x e).submit x.id (r.data.getD []) else s.update x e).Alike s ↔
      e.state = x.engine.state ∧ (r.isValid = true → s.submission? x.id = r.data) := by
  cases hr : r.isValid with
  | false => simp [Store.alike_update hs hx]
  | true =>
    obtain ⟨data, hd⟩ := Schema.data_of_validate hv hr
    simp [Store.alike_update_submit hs hx, hd]

theorem alike_submitForm (hs : s.Sound)
    (h : ∃ f, (submitForm settings s arguments).2 = .error f) :
    (submitForm settings s arguments).1.Alike s ↔ ¬ Spoils settings s arguments .submitForm := by
  rw [spoils_submit]
  cases hr : submitRequest s arguments with
  | error f =>
    rw [submitForm_unread hr]
    exact iff_of_true (.refl s) (by simp)
  | ok p =>
    obtain ⟨id, x⟩ := p
    have hx := find_of_submitRequest hr
    have hsound := hs.forms x (Store.find_eq_ok hx).1
    have hlong := Schema.validate_faults hsound.schema x.engine.state.values
    cases hv : x.engine.schema.validate x.engine.state.values with
    | error f =>
      -- the status is left at validating, which is a change unless it was there
      obtain ⟨e, he, -, hst⟩ := submit_fault hv
      rw [submitForm_fault hr he, Store.alike_update hs hx, hst]
      have ho : x.engine.Overlong := hlong.1 ⟨f, hv⟩
      constructor
      · rintro hh ⟨id', x', hr', ⟨-, hc⟩ | ⟨r, hv', -⟩⟩ <;> cases hr'
        · exact hc (congrArg State.status hh).symm
        · simp [hv] at hv'
      · intro hn
        by_contra hc
        refine hn ⟨id, x, rfl, .inl ⟨ho, fun hst' => hc ?_⟩⟩
        rw [← hst']
    | ok r =>
      obtain ⟨e, he, hre, hst⟩ := submit_result hv
      -- a submit leaves the values as they are, so it fails to show for these
      have hfail : ∃ f, view settings id e = .error f := (submitForm_result hr he).2.1 h
      have hu := (view_faults (hre.sound hsound)).1 hfail
      rw [hre.form_eq, hst] at hu
      rw [(submitForm_result hr he).1, alike_submitted hs hx hv, hst]
      constructor
      · rintro hh ⟨id', x', hr', ⟨ho, -⟩ | ⟨r', hv', -, hc⟩⟩ <;> cases hr'
        · obtain ⟨f, hf⟩ := hlong.2 ho
          simp [hv] at hf
        · obtain rfl := Except.ok.inj (hv.symm.trans hv')
          exact hc hh
      · intro hn
        by_contra hc
        exact hn ⟨id, x, rfl, .inr ⟨r, hv, hu, hc⟩⟩

/-! ## Unmounting -/

theorem spoils_unmount : Spoils settings s arguments .unmountForm ↔ ∃ id x,
    argument arguments "session_id" = .ok id ∧ SessionId.isKey id = true ∧
      s.find? id = some x ∧ id.hasLongInt = true := by
  constructor
  · rintro (_ | _ | _ | _ | ⟨ha, hk, hx, hl⟩)
    exact ⟨_, _, ha, hk, hx, hl⟩
  · rintro ⟨id, x, ha, hk, hx, hl⟩
    exact .unmount ha hk hx hl

theorem sessions_ne_nil (hx : s.find? id = some x) : s.sessions.isEmpty = false := by
  rw [List.isEmpty_eq_false_iff]
  exact List.ne_nil_of_mem (List.mem_of_find?_eq_some hx)

theorem alike_unmountForm (h : ∃ f, (unmountForm s arguments).2 = .error f) :
    (unmountForm s arguments).1.Alike s ↔ ¬ Spoils settings s arguments .unmountForm := by
  rw [spoils_unmount]
  unfold unmountForm at h ⊢
  cases ha : argument arguments "session_id" with
  | error f => exact iff_of_true (.refl s) (by simp)
  | ok id =>
    simp only [ha] at h ⊢
    split at h
    · rename_i hk
      rw [if_pos hk]
      refine iff_of_true (.refl s) ?_
      rintro ⟨id', x, ha', hk', -⟩
      cases ha'
      simp [hk'] at hk
    · rename_i hk
      rw [if_neg hk]
      cases hx : s.find? id with
      | none => simp [hx] at h
      | some x =>
        have hl : id.hasLongInt = true := by
          by_contra hl
          simp [hx, hl] at h
        have hkey : SessionId.isKey id = true := by simpa [sessions_ne_nil hx] using hk
        refine iff_of_false (Store.not_alike_unmount hx) (not_not.2 ?_)
        exact ⟨id, x, rfl, hkey, hx, hl⟩

/-! ## Answers -/

theorem view_head {e : Engine} {es : Entries} (h : view settings id e = .ok es) :
    ∃ rest, es = ("session_id", id) :: rest := by
  obtain ⟨r, -, h⟩ := bind_eq_ok.1 h
  cases h
  exact ⟨_, rfl⟩

theorem record_ne_errorAnswer {es : Entries} {message : String}
    (h : Value.record (("session_id", id) :: es) = errorAnswer message) : False := by
  simp [errorAnswer] at h

/-- What is shown of a session is no error. -/
theorem view_ne_errorAnswer {e : Engine} {message : String} (more : Entries)
    (h : (view settings id e).map (fun es => Value.record (es ++ more)) =
      .ok (errorAnswer message)) : False := by
  obtain ⟨es, hes, h⟩ := map_eq_ok.1 h
  obtain ⟨rest, rfl⟩ := view_head hes
  exact record_ne_errorAnswer h

theorem mountForm_ne_errorAnswer {message : String} :
    (mountForm settings s arguments).2 ≠ .ok (errorAnswer message) := by
  intro h
  cases hr : mountRequest arguments with
  | error f => rw [mountForm_unread hr] at h; cases h
  | ok p =>
    cases hm : Engine.mount p.1 settings.strict settings.tracing with
    | error f => rw [mountForm_refused hr hm] at h; cases h
    | ok e =>
      rw [mountForm_mounted hr hm] at h
      split at h
      · dsimp only at h
        split at h
        · cases h
        · exact view_ne_errorAnswer [] (by simpa using h)
      · cases h

theorem setFieldValue_ne_errorAnswer {message : String} :
    (setFieldValue settings s arguments).2 ≠ .ok (errorAnswer message) := by
  intro h
  cases hr : setRequest s arguments with
  | error f => rw [setFieldValue_unread hr] at h; cases h
  | ok p =>
    obtain ⟨id, x, name, v⟩ := p
    rcases setField_cases x.engine name v with ⟨f, hf, -⟩ | ⟨n, old, e, -, -, hf, -⟩
    · rw [setFieldValue_refused hr hf] at h; cases h
    · rw [setFieldValue_set hr hf] at h
      exact view_ne_errorAnswer [] (by simpa using h)

theorem submitForm_ne_errorAnswer {message : String} :
    (submitForm settings s arguments).2 ≠ .ok (errorAnswer message) := by
  intro h
  unfold submitForm at h
  dsimp only at h
  split at h
  · cases h
  · split at h
    · cases h
    · exact view_ne_errorAnswer _ h

theorem unmountForm_ne_errorAnswer {message : String} :
    (unmountForm s arguments).2 ≠ .ok (errorAnswer message) := by
  intro h
  unfold unmountForm at h
  split at h
  · cases h
  · split at h
    · cases h
    · dsimp only at h
      split at h
      · cases h
      · exact record_ne_errorAnswer (Except.ok.inj h)

/-- A call of a tool that fails leaves the store as it was unless it spoils it. -/
theorem alike_run {t : Tool} {message : String} (hs : s.Sound)
    (h : (∃ f, (run settings s t arguments).2 = .error f) ∨
      (run settings s t arguments).2 = .ok (errorAnswer message)) :
    (run settings s t arguments).1.Alike s ↔ ¬ Spoils settings s arguments t := by
  cases t with
  -- these do not touch the store, whatever they answer
  | validateForm | describeForm | lintForm => exact iff_of_true (.refl s) nofun
  | mountForm => exact alike_mountForm (h.resolve_right mountForm_ne_errorAnswer)
  | setFieldValue => exact alike_setFieldValue hs (h.resolve_right setFieldValue_ne_errorAnswer)
  | submitForm => exact alike_submitForm hs (h.resolve_right submitForm_ne_errorAnswer)
  | unmountForm => exact alike_unmountForm (h.resolve_right unmountForm_ne_errorAnswer)

end

/-! ## Every run -/

/-- **Failing calls.**  In every run, a call that answers with an error leaves
    the ids, the states and what was submitted as they were, unless it has
    changed them before it met an integer too long to be written; and then it
    does not. -/
theorem error_answer_keeps_store_iff {settings : Settings} {calls : List (String × Value)}
    {tool : String} {arguments : Value} {message : String}
    (h : (call settings (callAll settings calls) tool arguments).2 = .ok (errorAnswer message)) :
    (call settings (callAll settings calls) tool arguments).1.Alike (callAll settings calls) ↔
      ∀ t, Tool.ofName? tool = some t → ¬ Spoils settings (callAll settings calls) arguments t := by
  have hs := sound_callAll settings calls
  generalize callAll settings calls = s at h hs ⊢
  cases ht : Tool.ofName? tool with
  | none =>
    rw [call_unknown ht]
    exact iff_of_true (.refl s) (by simp)
  | some t =>
    rw [call_known ht] at h ⊢
    simp only [Option.some.injEq, forall_eq']
    have hf : (∃ f, (run settings s t arguments).2 = .error f) ∨
        (run settings s t arguments).2 = .ok (errorAnswer message) := by
      cases hr : (run settings s t arguments).2 with
      | error f => exact .inl ⟨f, rfl⟩
      | ok v => simpa [hr] using h
    exact alike_run hs hf

/-- A field that the form has not is given no value, and nothing else
    changes. -/
theorem error_answer_keeps_store_iff_undeclared :
    let s := callAll {}
      [("mount_form", .record [("form", .text "contact"), ("session_id", .text "a")])]
    let arguments : Value := .record [("session_id", .text "a"), ("name", .text "colour")]
    (call {} s "set_field_value" arguments).2 =
        .ok (errorAnswer "No field named 'colour' in this form") ∧
      (call {} s "set_field_value" arguments).1.Alike s ∧
      ∀ t, Tool.ofName? "set_field_value" = some t → ¬ Spoils {} s arguments t := by
  intro s arguments
  have h : (call {} s "set_field_value" arguments).2 =
      .ok (errorAnswer "No field named 'colour' in this form") := by decide +kernel
  have ha : (call {} s "set_field_value" arguments).1.Alike s := by decide +kernel
  exact ⟨h, ha, (error_answer_keeps_store_iff h).1 ha⟩

/-- A number of 4301 digits in a field to choose from stays there, though the
    call that put it there answers with an error. -/
theorem error_answer_after_change :
    let s := callAll {}
      [("mount_form", .record [("form", .text "contact"), ("session_id", .text "a")])]
    let arguments : Value := .record [("session_id", .text "a"), ("name", .text "subject"),
      ("value", .int (Nat.pow 10 4300))]
    (call {} s "set_field_value" arguments).2 =
        .ok (errorAnswer (Fault.digitLimit ++ Fault.digitAdvice)) ∧
      ¬ (call {} s "set_field_value" arguments).1.Alike s := by
  decide +kernel

end Service
end Formulary
