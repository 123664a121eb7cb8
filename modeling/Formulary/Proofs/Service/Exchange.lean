/-
  One call on the mounted forms.

  * `Exchange` is a call with the stores before and after it and the answer;
  * `Exchange.Does` has one case for each thing that an exchange can do under an
    id, and `exchange_orderly` says that a call whose id is a text does one of
    these under every id;
  * `submit_tells` and `unmount_tells`: what submits and unmounts are answered
    with.
-/
import Formulary.Proofs.Form.Loading
import Formulary.Proofs.Service.Effect
import Formulary.Proofs.Service.Failure

namespace Formulary.Service

/-- A call in a run, with the stores before and after it and the answer. -/
structure Exchange where
  call : Call
  before : Store
  after : Store
  answer : Except Fault Value

namespace Exchange

/-- Whether a form is mounted under an id: it is answered with the id. -/
def Mounts (x : Exchange) (id : String) : Prop :=
  Tool.ofName? x.call.1 = some .mountForm ∧
    ∃ v, x.answer = .ok v ∧ v.get? "session_id" = some (.text id)

/-- Whether the form under an id is to be dropped. -/
def Unmounts (x : Exchange) (id : String) : Prop :=
  Tool.ofName? x.call.1 = some .unmountForm ∧
    argument x.call.2 "session_id" = .ok (.text id)

/-- The data that are submitted under an id, if the values are valid. -/
def passed? (x : Exchange) (id : String) : Option Entries :=
  if Tool.ofName? x.call.1 = some .submitForm ∧
      (argument x.call.2 "session_id").toOption = some (.text id) then do
    let session ← x.before.find? (.text id)
    let r ← (session.engine.schema.validate session.engine.state.values).toOption
    if r.isValid then r.data else none
  else none

end Exchange

/-- A call on a store. -/
def exchange (settings : Settings) (s : Store) (c : Call) : Exchange where
  call := c
  before := s
  after := (call settings s c.1 c.2).1
  answer := (call settings s c.1 c.2).2

/-- Whether the id of a call, if there is one, is a text. -/
def HasTextId (c : Call) : Prop :=
  ∀ v, argument c.2 "session_id" = .ok v → v = .null ∨ ∃ id : String, v = .text id

/-! ## What can be done under an id -/

theorem passed?_eq_some {x : Exchange} {id : String} {data : Entries} :
    x.passed? id = some data ↔ Tool.ofName? x.call.1 = some .submitForm ∧
      argument x.call.2 "session_id" = .ok (.text id) ∧
      Passing (x.before.find? (.text id)) data := by
  have ha : (argument x.call.2 "session_id").toOption = some (.text id) ↔
      argument x.call.2 "session_id" = .ok (.text id) := by
    cases argument x.call.2 "session_id" <;> simp [Except.toOption]
  unfold Exchange.passed? Passing
  rw [← ha]
  split
  · rename_i h
    simp only [h, true_and]
    cases hf : x.before.find? (.text id) with
    | none => simp
    | some session =>
      cases hv : session.engine.schema.validate session.engine.state.values with
      | error f => simp [hv, Except.toOption]
      | ok r => cases hr : r.isValid <;> simp [hv, hr, Except.toOption]
  · rename_i h
    simp only [reduceCtorEq, false_iff]
    exact fun ⟨ht, hid, _⟩ => h ⟨ht, hid⟩

theorem passed?_of_ne {x : Exchange} {id : String}
    (h : Tool.ofName? x.call.1 ≠ some .submitForm) : x.passed? id = none :=
  if_neg fun h' => h h'.1

theorem passed?_of_unnamed {x : Exchange} {id : String}
    (h : argument x.call.2 "session_id" ≠ .ok (.text id)) : x.passed? id = none := by
  rw [Option.eq_none_iff_forall_ne_some]
  exact fun data hd => h (passed?_eq_some.1 hd).2.1

/-- What an exchange does under an id. -/
inductive Exchange.Does (x : Exchange) (id : String) : Prop
  /-- A form is mounted, and nothing is recorded. -/
  | mounts : x.Mounts id → (x.after.find? (.text id)).isSome = true →
      x.after.submission? (.text id) = none → x.Does id
  /-- Neither a form nor data are left. -/
  | unmounts : ¬ x.Mounts id → x.Unmounts id → x.after.find? (.text id) = none →
      x.after.submission? (.text id) = none → x.Does id
  /-- A form stays, or there stays none, and data are recorded iff they pass. -/
  | keeps : ¬ x.Mounts id → ¬ x.Unmounts id →
      (x.after.find? (.text id)).isSome = (x.before.find? (.text id)).isSome →
      x.after.submission? (.text id) = (x.passed? id).or (x.before.submission? (.text id)) →
      x.Does id

/-- Whether an exchange neither mounts nor drops a form under an id, and no data
    pass under it. -/
structure Exchange.Spares (x : Exchange) (id : String) : Prop where
  mounts : ¬ x.Mounts id
  unmounts : ¬ x.Unmounts id
  passed : x.passed? id = none

theorem Exchange.Spares.of_tool {x : Exchange} {t : Tool} (ht : Tool.ofName? x.call.1 = some t)
    (h : t ≠ .mountForm ∧ t ≠ .unmountForm ∧ t ≠ .submitForm) (id : String) : x.Spares id := by
  obtain ⟨hm, hu, hp⟩ := h
  exact ⟨fun h => hm (Option.some.inj (ht.symm.trans h.1)),
    fun h => hu (Option.some.inj (ht.symm.trans h.1)), passed?_of_ne (by simpa [ht] using hp)⟩

/-- An exchange that spares an id and leaves its cell as it was keeps it. -/
theorem Exchange.Spares.keeps {x : Exchange} {id : String} (hx : x.Spares id)
    (h : x.after.cell id = x.before.cell id) : x.Does id := by
  refine .keeps hx.mounts hx.unmounts ?_ ?_
  · exact congrArg (fun c : Option Session × Option Entries => c.1.isSome) h
  · rw [hx.passed]
    exact congrArg Prod.snd h

/-- Whether an exchange does one of these things under every id, and leaves ids
    that are texts. -/
structure Exchange.Orderly (x : Exchange) : Prop where
  does : ∀ id, x.Does id
  textual : x.after.Textual

/-- An exchange that spares all ids and leaves the store as it was is orderly. -/
theorem Exchange.Orderly.of_eq {x : Exchange} (hs : x.before.Textual)
    (h : x.after = x.before) (hx : ∀ id, x.Spares id) : x.Orderly :=
  ⟨fun id => (hx id).keeps (by rw [h]), by rw [h]; exact hs⟩

/-! ## Mounting -/

section
variable {settings : Settings} {s : Store} {arguments : Value} {c : Call}

/-- What a fault is answered with, if at all, is an error. -/
theorem errorAnswer_of_answer {f : Fault} {v : Value} (h : answer f = .ok v) :
    ∃ message, v = errorAnswer message := by
  unfold answer at h
  split at h
  -- the faults that go to the caller
  iterate 6
    · cases h
  · split at h
    · cases h
    · exact ⟨_, (Except.ok.inj h).symm⟩
  · exact ⟨_, (Except.ok.inj h).symm⟩

/-- The form that is given is taken if it can be written. -/
theorem formArgument_eq_ok {v : Value} : formArgument arguments = .ok v ↔
    argument? arguments "form" = .ok (some v) ∧ v ≠ .null ∧ Json.obstacle? false v = none := by
  constructor
  · intro h
    obtain ⟨v?, hv, h⟩ := bind_eq_ok.1 h
    split at h
    · cases h
    · rename_i w hw
      obtain ⟨ho, rfl⟩ := Value.writable_eq_ok.1 h
      refine ⟨?_, hw, ho⟩
      cases v? with
      | none => exact absurd rfl hw
      | some w => exact hv
  · rintro ⟨hv, hn, ho⟩
    refine bind_eq_ok.2 ⟨some v, hv, ?_⟩
    rw [Option.getD_some]
    cases v with
    | null => exact absurd rfl hn
    | _ => exact Value.writable_eq_ok.2 ⟨ho, rfl⟩

theorem short_of_formArgument {v : Value} (h : formArgument arguments = .ok v) : v.IsShort :=
  Json.short_of_obstacle (formArgument_eq_ok.1 h).2.2

/-- The id that a form is mounted under, if it can be read. -/
theorem mountId_text (hc : HasTextId c) {form : Form} {given : Value}
    (h : mountRequest c.2 = .ok (form, given)) (s : Store) :
    ∃ (n : Nat) (id : String), mountId s given = ({ s with generated := n }, .text id) := by
  have hg : given = .null ∨ ∃ id : String, given = .text id := by
    obtain ⟨given?, hg, rfl⟩ := given_of_mountRequest h
    cases given? with
    | none => exact .inl rfl
    | some v => exact hc v (argument_eq_ok.2 hg)
  unfold mountId
  split
  · exact ⟨_, _, rfl⟩
  · rename_i hf
    rcases hg with rfl | ⟨id, rfl⟩
    · exact absurd rfl hf
    · exact ⟨s.generated, id, rfl⟩

/-- A form that is mounted is shown. -/
theorem view_of_mounted {form : Form} {given : Value} {e : Engine}
    (h : mountRequest arguments = .ok (form, given))
    (hm : Engine.mount form settings.strict settings.tracing = .ok e) (id : Value) :
    ∃ es, view settings id e = .ok es := by
  cases hv : view settings id e with
  | ok es => exact ⟨es, rfl⟩
  | error f =>
    have hu := (view_faults (Engine.sound_of_mount hm)).1 ⟨f, hv⟩
    obtain ⟨v, hv, h⟩ := bind_eq_ok.1 h
    obtain ⟨form', hl, h⟩ := bind_eq_ok.1 h
    obtain ⟨given', -, h⟩ := bind_eq_ok.1 h
    cases h
    rw [(Engine.mount_eq_ok hm).2.1, (Engine.mount_eq_ok hm).2.2.1] at hu
    exact absurd hu (Form.not_unshowable_initial (short_of_formArgument hv) hl)

variable (settings) in
/-- What a call to mount a form comes to. -/
theorem mountForm_text (hc : HasTextId c) (s : Store) :
    (∃ f n, mountForm settings s c.2 = ({ s with generated := n }, .error f)) ∨
      ∃ n id e es, mountForm settings s c.2 =
        (({ s with generated := n } : Store).mount (.text id) e,
          .ok (.record (("session_id", .text id) :: es))) := by
  cases hr : mountRequest c.2 with
  | error f => exact .inl ⟨f, s.generated, mountForm_unread hr⟩
  | ok p =>
    obtain ⟨form, given⟩ := p
    obtain ⟨n, id, hi⟩ := mountId_text hc hr s
    cases hm : Engine.mount form settings.strict settings.tracing with
    | error f => exact .inl ⟨f, n, by rw [mountForm_refused hr hm, hi]⟩
    | ok e =>
      obtain ⟨es, hes⟩ := view_of_mounted hr hm (.text id)
      obtain ⟨rest, rfl⟩ := view_head hes
      refine .inr ⟨n, id, e, rest, ?_⟩
      rw [mountForm_mounted hr hm, hi, hes]
      rfl

variable (settings s) in
theorem exchange_known {t : Tool} (ht : Tool.ofName? c.1 = some t) :
    (exchange settings s c).after = (run settings s t c.2).1 ∧
      (exchange settings s c).answer = match (run settings s t c.2).2 with
        | .ok v => .ok v
        | .error f => answer f := by
  unfold exchange
  rw [call_known ht]
  exact ⟨rfl, rfl⟩

theorem orderly_mountForm (ht : Tool.ofName? c.1 = some .mountForm) (hs : s.Textual)
    (hc : HasTextId c) : (exchange settings s c).Orderly := by
  obtain ⟨hafter, hans⟩ := exchange_known settings s ht
  have hu : ∀ id, ¬ (exchange settings s c).Unmounts id := by
    rintro id ⟨h, -⟩
    rw [exchange, ht] at h
    cases h
  have hp : ∀ id, (exchange settings s c).passed? id = none :=
    fun id => passed?_of_ne (by simp [exchange, ht])
  rcases mountForm_text settings hc s with ⟨f, n, hr⟩ | ⟨n, id', e, es, hr⟩ <;>
    rw [run, hr] at hafter hans
  · -- the answer is an error, and shows no id
    have hm : ∀ id, ¬ (exchange settings s c).Mounts id := by
      rintro id ⟨-, v, hv, hid⟩
      rw [hans] at hv
      obtain ⟨message, rfl⟩ := errorAnswer_of_answer hv
      simp [errorAnswer, Value.get?, List.lookup_cons] at hid
    refine ⟨fun id => ?_, by rw [hafter]; exact ⟨hs.sessions, hs.submissions⟩⟩
    exact Exchange.Spares.keeps ⟨hm id, hu id, hp id⟩ (by rw [hafter]; rfl)
  · have hcell : ∀ id, (exchange settings s c).after.cell id =
        if id = id' then (some ⟨.text id', .text id', e⟩, none) else s.cell id := by
      intro id
      rw [hafter, Store.cell_mount]
      rfl
    have hm : ∀ id, (exchange settings s c).Mounts id ↔ id = id' := by
      intro id
      unfold Exchange.Mounts
      rw [hans]
      simp [exchange, ht, Value.get?, eq_comm]
    refine ⟨fun id => ?_, by rw [hafter]; exact Store.Textual.mount ⟨hs.sessions, hs.submissions⟩⟩
    by_cases h : id = id'
    · have hid := (hcell id).trans (if_pos h)
      have hf : (exchange settings s c).after.find? (.text id) = some _ := congrArg Prod.fst hid
      exact .mounts ((hm id).2 h) (by rw [hf]; rfl) (congrArg Prod.snd hid)
    · exact Exchange.Spares.keeps ⟨fun h' => h ((hm id).1 h'), hu id, hp id⟩
        ((hcell id).trans (if_neg h))

/-! ## Other tools -/

theorem spares_unnamed {id : String} (hm : Tool.ofName? c.1 ≠ some .mountForm)
    (h : argument c.2 "session_id" ≠ .ok (.text id)) : (exchange settings s c).Spares id :=
  ⟨fun h' => hm h'.1, fun h' => h h'.2, passed?_of_unnamed h⟩

theorem orderly_named {t : Tool} {id' : String} (ht : Tool.ofName? c.1 = some t)
    (hm : t ≠ .mountForm) (hs : s.Textual) (hid : argument c.2 "session_id" = .ok (.text id')) :
    (exchange settings s c).Orderly := by
  obtain ⟨eff, a, ho, hr⟩ := run_effect settings (t := t) (fun h => absurd h hm) hid
    fun x => hs.found (x := x)
  have hafter : (exchange settings s c).after = eff.on id' s := by
    rw [(exchange_known settings s ht).1, hr s rfl]
  refine ⟨fun id => ?_, by rw [hafter]; exact Effect.textual_on hs eff id'⟩
  have hm' : ¬ (exchange settings s c).Mounts id :=
    fun h => hm (Option.some.inj (ht.symm.trans h.1))
  have hcell : (exchange settings s c).after.cell id =
      if id = id' then eff.onCell id' (s.cell id') else s.cell id := by
    rw [hafter, Effect.cell_on]
  by_cases h : id = id'
  · subst h
    rw [if_pos rfl] at hcell
    have hf : (exchange settings s c).after.find? (.text id) = _ := congrArg Prod.fst hcell
    have hsub : (exchange settings s c).after.submission? (.text id) = _ := congrArg Prod.snd hcell
    have hu : (exchange settings s c).Unmounts id ↔ t = .unmountForm := by
      simp [Exchange.Unmounts, exchange, ht, hid]
    have hp : ∀ data, (exchange settings s c).passed? id = some data ↔
        t = .submitForm ∧ Passing (s.find? (.text id)) data := by
      intro data
      rw [passed?_eq_some]
      simp [exchange, ht, hid]
    have hn : (t = .submitForm → ∀ data, ¬ Passing (s.find? (.text id)) data) →
        (exchange settings s c).passed? id = none := by
      intro h
      rw [Option.eq_none_iff_forall_ne_some]
      exact fun data hd => h ((hp data).1 hd).1 data ((hp data).1 hd).2
    cases eff with
    | nothing => exact Exchange.Spares.keeps ⟨hm', fun h => ho.1 (hu.1 h), hn ho.2⟩ hcell
    | mount e => exact absurd ho hm
    | update e =>
      rcases ho with rfl | ⟨rfl, ho⟩
      · exact .keeps hm' (fun h => nomatch hu.1 h) (by rw [hf]; exact Option.isSome_map)
          (by rw [hsub, hn nofun]; rfl)
      · exact .keeps hm' (fun h => nomatch hu.1 h) (by rw [hf]; exact Option.isSome_map)
          (by rw [hsub, hn fun _ => ho]; rfl)
    | record e data =>
      obtain rfl := ho.1
      exact .keeps hm' (fun h => nomatch hu.1 h) (by rw [hf]; exact Option.isSome_map)
        (by rw [hsub, (hp data).2 ho]; rfl)
    | unmount => exact .unmounts hm' (hu.2 ho) hf hsub
  · have hne : argument c.2 "session_id" ≠ .ok (.text id) := by
      rw [hid]
      simpa using Ne.symm h
    exact (spares_unnamed (by simpa [ht] using hm) hne).keeps (hcell.trans (if_neg h))

/-- A tool that needs a session does nothing under an id that it is not given. -/
theorem orderly_session {t : Tool} (ht : Tool.ofName? c.1 = some t)
    (hn : t = .setFieldValue ∨ t = .submitForm ∨ t = .unmountForm) (hs : s.Textual)
    (hc : HasTextId c) : (exchange settings s c).Orderly := by
  have hm : t ≠ .mountForm := by rcases hn with rfl | rfl | rfl <;> simp
  have unnamed : (∀ id : String, argument c.2 "session_id" ≠ .ok (.text id)) →
      (run settings s t c.2).1 = s → (exchange settings s c).Orderly := by
    intro h hr
    exact .of_eq hs ((exchange_known settings s ht).1.trans hr)
      fun id => spares_unnamed (by simpa [ht] using hm) (h id)
  cases ha : argument c.2 "session_id" with
  | error f => exact unnamed (by simp [ha]) (by rw [run_unnamed hn ha])
  | ok v =>
    rcases hc v ha with rfl | ⟨id, rfl⟩
    · exact unnamed (by simp [ha]) (run_null hn hs ha)
    · exact orderly_named ht hm hs ha

variable (settings) in
/-- Every call whose id is a text is orderly. -/
theorem exchange_orderly (hs : s.Textual) (hc : HasTextId c) :
    (exchange settings s c).Orderly := by
  cases ht : Tool.ofName? c.1 with
  | none =>
    refine .of_eq hs (call_unknown ht) fun id => ⟨fun h => ?_, fun h => ?_, passed?_of_ne ?_⟩
    · cases ht.symm.trans h.1
    · cases ht.symm.trans h.1
    · simp [exchange, ht]
  | some t =>
    cases t with
    | validateForm | describeForm | lintForm =>
      exact .of_eq hs (exchange_known settings s ht).1 (.of_tool ht (by simp))
    | mountForm => exact orderly_mountForm ht hs hc
    | setFieldValue | submitForm | unmountForm => exact orderly_session ht (by simp) hs hc

/-! ## Submits and unmounts -/

theorem view_eq_ok {id : Value} {e : Engine} {es : Entries} (h : view settings id e = .ok es) :
    ∃ r : Rendered, es = [("session_id", id), ("status", .text e.state.status.name),
      ("values", .record e.state.values),
      ("errors", .record (e.state.errors.map fun (name, m) => (name, .text m))),
      ("fields", .list (r.controls.map fun c => .text c.name))] := by
  obtain ⟨r, -, h⟩ := bind_eq_ok.1 h
  cases h
  exact ⟨r, rfl⟩

/-- Whether an answer tells of a submit under an id, with a verdict on what it
    met and with the data that it left. -/
def Exchange.Tells (x : Exchange) (v : Value) (id : String) : Prop :=
  ∃ session r, x.before.find? (.text id) = some session ∧
    session.engine.schema.validate session.engine.state.values = .ok r ∧
    v.get? "submitted" = some (.bool r.isValid) ∧
    ((r.isValid = true ∧ ∃ data, r.data = some data ∧
        x.after.submission? (.text id) = some data ∧ v.get? "data" = some (.record data)) ∨
      (r.isValid = false ∧ v.get? "data" = some .null))

theorem tells_of_verdict {x : Exchange} {v : Value} {id : String} {session : Session}
    {e : Engine} {r : Result} (hf : x.before.find? (.text id) = some session)
    (hr : session.engine.schema.validate session.engine.state.values = .ok r)
    (hv : verdictAnswer settings id e r = .ok v)
    (hs : r.isValid = true → x.after.submission? (.text id) = some (r.data.getD [])) :
    x.Tells v id := by
  obtain ⟨es, hes, rfl⟩ := map_eq_ok.1 hv
  obtain ⟨shown, rfl⟩ := view_eq_ok hes
  refine ⟨session, r, hf, hr, by simp [Value.get?, List.lookup_cons], ?_⟩
  cases hi : r.isValid with
  | false => exact .inr ⟨rfl, by simp [Value.get?, List.lookup_cons]⟩
  | true =>
    obtain ⟨data, hd⟩ := Schema.data_of_validate hr hi
    refine .inl ⟨rfl, data, hd, ?_, by simp [Value.get?, List.lookup_cons, hd]⟩
    rw [hs hi, hd]
    rfl

theorem submit_tells (ht : Tool.ofName? c.1 = some .submitForm) (hs : s.Textual) {v : Value}
    (hv : (exchange settings s c).answer = .ok v) (he : v.get? "error" = none) :
    ∃ id, argument c.2 "session_id" = .ok (.text id) ∧ (exchange settings s c).Tells v id := by
  obtain ⟨hafter, hans⟩ := exchange_known settings s ht
  rw [hv, run] at hans
  rw [run] at hafter
  have failed : ∀ f, answer f ≠ .ok v := by
    intro f hf
    obtain ⟨message, rfl⟩ := errorAnswer_of_answer hf
    simp [errorAnswer, Value.get?] at he
  cases hr : submitRequest s c.2 with
  | error f =>
    rw [submitForm_unread hr] at hans
    exact absurd hans.symm (failed f)
  | ok p =>
    obtain ⟨id', x⟩ := p
    obtain ⟨id, rfl, hx⟩ := hs.eq_text_of_find (find_of_submitRequest hr)
    have hid : argument c.2 "session_id" = .ok (.text id) := by
      obtain ⟨a, ha, h⟩ := bind_eq_ok.1 hr
      obtain ⟨y, -, h⟩ := bind_eq_ok.1 h
      cases h
      exact ha
    refine ⟨id, hid, ?_⟩
    cases hval : x.engine.schema.validate x.engine.state.values with
    | error f =>
      obtain ⟨e, he, -⟩ := submit_fault hval
      rw [submitForm_fault hr he] at hans
      exact absurd hans.symm (failed f)
    | ok r =>
      obtain ⟨e, he, -⟩ := submit_result hval
      have told : ∀ {s'}, submitForm settings s c.2 = (s', verdictAnswer settings id e r) →
          verdictAnswer settings id e r = .ok v := by
        intro s' h
        rw [h] at hans
        cases hva : verdictAnswer settings id e r with
        | ok w => rw [hva] at hans; exact hans.symm
        | error f => rw [hva] at hans; exact absurd hans.symm (failed f)
      cases hi : r.isValid with
      | false =>
        have hs' : submitForm settings s c.2 = _ := submitForm_invalid hr (hs.found hx).1 he hi
        exact tells_of_verdict hx hval (told hs') (by simp [hi])
      | true =>
        have hs' : submitForm settings s c.2 = _ := submitForm_valid hr (hs.found hx) he hi
        refine tells_of_verdict hx hval (told hs') fun _ => ?_
        rw [hafter, hs', Effect.on, Store.submission?_submit, if_pos rfl]

theorem unmount_tells {id : String} (hu : (exchange settings s c).Unmounts id) :
    (exchange settings s c).answer = .ok (.record
      [("session_id", .text id), ("unmounted", .bool (s.find? (.text id)).isSome)]) := by
  obtain ⟨ht, hid⟩ := hu
  have ht : Tool.ofName? c.1 = some .unmountForm := ht
  have hid : argument c.2 "session_id" = .ok (.text id) := hid
  rw [(exchange_known settings s ht).2, run, unmountForm_text hid]

end

end Formulary.Service
