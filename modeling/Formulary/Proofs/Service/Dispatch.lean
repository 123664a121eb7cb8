/-
  Which calls that are well typed are answered.

  A call fits its tool if its arguments are plain, the id of a session and the
  name of a field are texts, and a form that is a text holds no half of a pair of
  surrogates and none has a pattern out of bounds; what else is wrong with it is
  told in the answer, unless it is that something is nested too deeply.

  * `IsAnswered` are the faults that are told, and `Answers` the outcomes of tools
    that come to an answer;
  * `TooDeep` is what of a call is nested too deeply to be written or read, and
    `run_tooDeep`: where something is, there is no answer;
  * `answers_validateForm` and its like: each tool comes to one where nothing is;
  * `call_answers`: so does every call, in every store that calls have led to.

  What is nested counts where it is written or read as JSON; values are shown at
  any depth, which is the assumption of `Value.display`.
-/
import Formulary.Proofs.Service.Texts

namespace Formulary

/-! ## Plain values -/

namespace Json

mutual

/-- Where dates are allowed, or there is none, no date stops a value from being
    written. -/
theorem obstacleWithin?_ne_date {dates : Bool} : ∀ {v : Value} {room : Nat},
    (dates = false → v.IsPlain) → obstacleWithin? dates room v ≠ some .date
  | .null, _, _ | .bool _, _, _ | .text _, _, _ | .number (.real _), _, _ => by
    simp [obstacleWithin?]
  | .number (.whole n), _, _ => by
    rw [obstacleWithin?]
    split <;> simp
  | .date _, _, h => by
    rw [obstacleWithin?]
    cases dates with
    | false => exact (h rfl).elim
    | true => simp
  | .list vs, 0, _ | .record es, 0, _ => by simp [obstacleWithin?]
  | .list vs, room + 1, h =>
    obstacleItems?_ne_date fun hd => Value.isPlain_list.1 (h hd)
  | .record es, room + 1, h =>
    obstacleEntries?_ne_date fun hd => Value.isPlain_record.1 (h hd)

theorem obstacleItems?_ne_date {dates : Bool} {room : Nat} : ∀ {vs : List Value},
    (dates = false → ∀ v ∈ vs, v.IsPlain) → obstacleItems? dates room vs ≠ some .date
  | [], _ => by simp [obstacleItems?]
  | v :: vs, h => by
    rw [obstacleItems?, Ne, Option.or_eq_some_iff]
    rintro (hv | ⟨-, hvs⟩)
    · exact obstacleWithin?_ne_date (fun hd => (List.forall_mem_cons.1 (h hd)).1) hv
    · exact obstacleItems?_ne_date (fun hd => (List.forall_mem_cons.1 (h hd)).2) hvs

theorem obstacleEntries?_ne_date {dates : Bool} {room : Nat} : ∀ {es : Entries},
    (dates = false → ∀ p ∈ es, p.2.IsPlain) → obstacleEntries? dates room es ≠ some .date
  | [], _ => by simp [obstacleEntries?]
  | (_, v) :: es, h => by
    rw [obstacleEntries?, Ne, Option.or_eq_some_iff]
    rintro (hv | ⟨-, hes⟩)
    · exact obstacleWithin?_ne_date (fun hd => (List.forall_mem_cons.1 (h hd)).1) hv
    · exact obstacleEntries?_ne_date (fun hd => (List.forall_mem_cons.1 (h hd)).2) hes

end

end Json

/-! ## Forms without patterns out of bounds -/

/-- Whether the fields of a form are as fields are read, and no pattern is out of
    bounds. -/
structure Form.Sane (form : Form) : Prop where
  legible : ∀ f ∈ form.fields, f.Legible
  patterns : ∀ f ∈ form.fields, ∀ r ∈ f.rules, ¬r.IsOutOfBounds

namespace Form.Sane
variable {form : Form} (h : form.Sane)
include h

theorem isDeclared : form.IsDeclared := fun f hf => (h.legible f hf).type

theorem not_unreadable : ¬∃ f ∈ form.fields, f.IsUnreadable := by
  rintro ⟨f, hf, hu⟩
  obtain ⟨r, hr, -, hb⟩ := (h.legible f hf).isUnreadable_iff.1 hu
  exact h.patterns f hf r hr hb

theorem exists_lint : ∃ ds, lint form.fields = .ok ds :=
  exists_ok_iff.2 (mt (lint_faults h.isDeclared).1 h.not_unreadable)

/-- Such a form is not compiled because it has diagnostics where none are
    allowed. -/
theorem compile_only (strict : Bool) :
    FaultsOnly (fun e => ∃ ds, e = .diagnosed ds) (Schema.compile strict form.fields) := by
  intro e he
  cases strict with
  | false => exact absurd ((Schema.compile_faults h.isDeclared).1 ⟨e, he⟩) h.not_unreadable
  | true =>
    obtain ⟨ds, hds⟩ := h.exists_lint
    rw [Schema.compile_strict hds] at he
    split at he
    · exact ⟨_, (Except.error.inj he).symm⟩
    · obtain ⟨s, hs⟩ := Schema.ofFields_of_lint hds ‹_›
      rw [hs] at he
      cases he

end Form.Sane

/-- The values of a form have no result because of an integer too long. -/
theorem Schema.validate_only {s : Schema} (hs : s.OfFields) (values : Entries) :
    FaultsOverLength (s.validate values) := by
  refine FaultsOnly.map (FaultsOnly.mapM fun p hp => FaultsOnly.map fun e he => ?_)
  obtain ⟨f, -, hf⟩ := hs p hp
  obtain ⟨hd, hr⟩ := (Field.validate_faults hf).1 ⟨e, he⟩
  rw [Field.validate_longInt hf hd hr] at he
  exact (Except.error.inj he).symm

/-! ## Answers -/

namespace Service

/-- Whether a fault is told in an answer. -/
def IsAnswered (f : Fault) : Prop := ∃ v, answer f = .ok v

/-- Whether a tool comes to an answer: it gives a record, or its fault is told. -/
structure Answers (x : Except Fault Value) : Prop where
  faults : FaultsOnly IsAnswered x
  record : ∀ v, x = .ok v → ∃ es, v = .record es

theorem answered_of_length {α : Type} {x : Except Fault α} (h : FaultsOverLength x) :
    FaultsOnly IsAnswered x :=
  h.mono fun _ he => he ▸ ⟨_, rfl⟩

/-- What stops a plain value from being written is told, unless it is nested too
    deeply. -/
theorem writable_answered {v : Value} (hv : v.IsPlain)
    (hn : Json.obstacle? false v ≠ some .nestedTooDeep) : FaultsOnly IsAnswered v.writable := by
  unfold Value.writable
  split
  · rename_i o ho
    cases o with
    | integerTooLong => exact .error ⟨_, rfl⟩
    | date => exact absurd ho (Json.obstacleWithin?_ne_date fun _ => hv)
    | nestedTooDeep => exact absurd ho hn
  · exact .ok v

theorem Answers.bind {α : Type} {x : Except Fault α} {f : α → Except Fault Value}
    (hx : FaultsOnly IsAnswered x) (hf : ∀ a, x = .ok a → Answers (f a)) : Answers (x >>= f) where
  faults := hx.bind fun a ha => (hf a ha).faults
  record v hv := by
    obtain ⟨a, ha, hv⟩ := bind_eq_ok.1 hv
    exact (hf a ha).record v hv

theorem Answers.ok (es : Entries) : Answers (.ok (.record es)) where
  faults := .ok _
  record _ hv := ⟨es, (Except.ok.inj hv).symm⟩

theorem Answers.error {f : Fault} (h : IsAnswered f) : Answers (.error f) where
  faults := .error h
  record _ hv := by cases hv

theorem Answers.map_record {x : Except Fault Entries} {f : Entries → Entries}
    (h : FaultsOnly IsAnswered x) : Answers (x.map fun es => .record (f es)) where
  faults := h.map
  record v hv := by
    obtain ⟨es, -, rfl⟩ := map_eq_ok.1 hv
    exact ⟨f es, rfl⟩

/-! ## Arguments -/

/-- Whether arguments are well typed: they are plain, the id of a session and the
    name of a field, if they are there, are texts, and in a form no half of a pair
    of surrogates is written and no pattern is out of bounds. -/
structure WellTyped (arguments : Entries) : Prop where
  plain : (Value.record arguments).IsPlain
  id : ∀ v, arguments.lookup "session_id" = some v → ∃ t, v = .text t
  name : ∀ v, arguments.lookup "name" = some v → ∃ t, v = .text t
  paired : ∀ s, arguments.lookup "form" = some (.text s) → Json.Paired s
  patterns : ∀ v form, arguments.lookup "form" = some v → Form.load v = .ok form →
    ∀ f ∈ form.fields, ∀ r ∈ f.rules, ¬r.IsOutOfBounds

/-- What of a call is nested too deeply, where nothing else ends the call before. -/
inductive TooDeep (settings : Settings) (arguments : Entries) : Tool → Prop
  /-- The form, which is written. -/
  | form {t : Tool} {v : Value} (ht : ∃ p ∈ t.parameters, p.kind = .form)
      (hv : arguments.lookup "form" = some v)
      (ho : Json.obstacle? false v = some .nestedTooDeep) : TooDeep settings arguments t
  /-- The values, which are written after the form. -/
  | values {t : Tool} {v w : Value} (ht : ∃ p ∈ t.parameters, p.kind = .values)
      (hf : formArgument (.record arguments) = .ok v)
      (hw : arguments.lookup "values" = some w)
      (ho : Json.obstacle? false w = some .nestedTooDeep) : TooDeep settings arguments t
  /-- The text of the form, which is read after the values, if any, are written. -/
  | text {t : Tool} {s : String} {place : Json.Position} (ht : ∃ p ∈ t.parameters, p.kind = .form)
      (hvs : (∃ p ∈ t.parameters, p.kind = .values) →
        ∃ values, valuesArgument (.record arguments) = .ok values)
      (hs : arguments.lookup "form" = some (.text s))
      (hr : Json.read s = .error ⟨.nestedTooDeep, place⟩) : TooDeep settings arguments t
  /-- What the form looks like with the values, which is written in the end. -/
  | description {v d : Value} {values : Except Fault Entries} {form : Form}
      (hv : formArgument (.record arguments) = .ok v)
      (hvs : valuesArgument (.record arguments) = .ok values) (hf : Form.load v = .ok form)
      (hd : Report.description settings form values = .ok d)
      (ho : Json.obstacle? true d = some .nestedTooDeep) :
      TooDeep settings arguments .describeForm

section
variable {settings : Settings} {arguments : Entries} {name : String} {v : Value} {t : Tool}

theorem plain_of_lookup (h : WellTyped arguments) (hv : arguments.lookup name = some v) :
    v.IsPlain :=
  Value.isPlain_record.1 h.plain _ (Entries.mem_of_lookup hv)

theorem argument_only : FaultsOnly IsAnswered (argument (.record arguments) name) := by
  unfold argument
  dsimp only
  cases arguments.lookup name with
  | none => exact .error ⟨_, rfl⟩
  | some v => exact .ok v

theorem lookup_of_argument (h : argument (.record arguments) name = .ok v) :
    arguments.lookup name = some v := by
  unfold argument at h
  dsimp only at h
  cases hl : arguments.lookup name with
  | none => rw [hl] at h; cases h
  | some w => rw [hl] at h; exact congrArg some (Except.ok.inj h)

theorem formArgument_only (h : WellTyped arguments) (hd : ¬TooDeep settings arguments t)
    (ht : ∃ p ∈ t.parameters, p.kind = .form) :
    FaultsOnly IsAnswered (formArgument (.record arguments)) := by
  refine FaultsOnly.bind (.ok _) fun v? hv => ?_
  obtain rfl := Except.ok.inj hv
  cases hl : arguments.lookup "form" with
  | none => exact .error ⟨_, rfl⟩
  | some w =>
    dsimp only [Option.getD_some]
    split
    · exact .error ⟨_, rfl⟩
    · exact writable_answered (plain_of_lookup h hl) fun ho => hd (.form ht hl ho)

theorem lookup_of_formArgument (h : formArgument (.record arguments) = .ok v) :
    arguments.lookup "form" = some v :=
  Except.ok.inj (formArgument_eq_ok.1 h).1

theorem valuesArgument_only (h : WellTyped arguments) (hd : ¬TooDeep settings arguments t)
    (ht : ∃ p ∈ t.parameters, p.kind = .values)
    (hv : formArgument (.record arguments) = .ok v) :
    FaultsOnly IsAnswered (valuesArgument (.record arguments)) := by
  refine FaultsOnly.bind (.ok _) fun v? hv? => ?_
  obtain rfl := Except.ok.inj hv?
  refine FaultsOnly.bind ?_ fun w _ => ?_
  · cases hl : arguments.lookup "values" with
    | none => exact .ok _
    | some w => exact writable_answered (plain_of_lookup h hl) fun ho => hd (.values ht hv hl ho)
  · split <;> exact .ok _

/-- Values that are given and are none are told to be. -/
theorem values_only {values : Except Fault Entries}
    (h : valuesArgument (.record arguments) = .ok values) : FaultsOnly IsAnswered values := by
  obtain ⟨v?, -, h⟩ := bind_eq_ok.1 h
  obtain ⟨w, -, h⟩ := bind_eq_ok.1 h
  split at h <;> cases h
  · exact .ok _
  · exact .error ⟨_, rfl⟩

/-- A form that is no form is told to be. -/
theorem load_answered (h : WellTyped arguments) (hd : ¬TooDeep settings arguments t)
    (ht : ∃ p ∈ t.parameters, p.kind = .form)
    (hvs : (∃ p ∈ t.parameters, p.kind = .values) →
      ∃ values, valuesArgument (.record arguments) = .ok values)
    (hv : formArgument (.record arguments) = .ok v) : FaultsOnly IsAnswered (Form.load v) := by
  refine (Form.load_only v).mono ?_
  rintro f (⟨s, ⟨problem, place⟩, rfl, hr, rfl⟩ | ⟨rs, rfl⟩)
  · have hs := lookup_of_formArgument hv
    rcases Fault.ofFailure_cases ⟨problem, place⟩ with ⟨rfl, -⟩ | ⟨rfl, -⟩ | hf
    · exact absurd (.text ht hvs hs hr) hd
    · exact absurd hr (h.paired s hs place)
    · rw [hf]
      exact ⟨_, rfl⟩
  · exact ⟨_, rfl⟩

theorem WellTyped.sane (h : WellTyped arguments) {form : Form}
    (hv : formArgument (.record arguments) = .ok v) (hf : Form.load v = .ok form) : form.Sane :=
  ⟨Form.legible_of_load (short_of_formArgument hv) hf,
    h.patterns v form (lookup_of_formArgument hv) hf⟩

end

section
variable {settings : Settings} {s : Store} {arguments : Entries} {form : Form}

/-! ## Tools without a session -/

theorem compile_answered (h : form.Sane) (strict : Bool) :
    FaultsOnly IsAnswered (Schema.compile strict form.fields) := by
  refine (h.compile_only strict).mono ?_
  rintro f ⟨ds, rfl⟩
  exact ⟨_, rfl⟩

theorem mount_answered (h : form.Sane) (strict traced : Bool) :
    FaultsOnly IsAnswered (Engine.mount form strict traced) :=
  (compile_answered h strict).bind fun _ _ => .ok _

/-- What is wrong with a form or its data, if told, is reported or answered. -/
theorem failure_answered {f : Fault} (h : IsAnswered f) :
    FaultsOnly IsAnswered (Report.failure f) := by
  unfold Report.failure
  dsimp only
  split
  · exact .error h
  · exact .error h
  iterate 4
    · exact .ok _

theorem validation_answered {v : Value} {values : Except Fault Entries}
    (hl : FaultsOnly IsAnswered (Form.load v)) (hv : FaultsOnly IsAnswered values)
    (h : ∀ form, Form.load v = .ok form → form.Sane) :
    FaultsOnly IsAnswered (Report.validation settings (Form.load v) values) := by
  cases hf : Form.load v with
  | error f => exact failure_answered (hl f hf)
  | ok form =>
    cases values with
    | error f => exact failure_answered (hv f rfl)
    | ok values =>
      refine (compile_answered (h form hf) settings.strict).bind fun schema hs => ?_
      exact (answered_of_length
        (Schema.validate_only (Schema.ofFields_of_compile hs) values)).bind fun _ _ => .ok _

/-- A value in a result that is too deep to be written is told to be. -/
theorem write_answered (r : Report.Validation) : FaultsOnly IsAnswered r.write := by
  cases r with
  | result r =>
    intro f hf
    obtain ⟨-, rfl⟩ := Json.writeGuarded_eq_error.1 hf
    exact ⟨_, rfl⟩
  | failed errorType message => exact .ok _

theorem answers_validateForm (h : WellTyped arguments)
    (hd : ¬TooDeep settings arguments .validateForm) :
    Answers (validateForm settings (.record arguments)) := by
  refine Answers.bind (formArgument_only h hd (by decide)) fun v hv => ?_
  refine Answers.bind (valuesArgument_only h hd (by decide) hv) fun values hvs => ?_
  refine Answers.bind (validation_answered (load_answered h hd (by decide) (fun _ => ⟨_, hvs⟩) hv)
    (values_only hvs) fun form hf => h.sane hv hf) fun r _ => ?_
  refine Answers.bind (write_answered r) fun _ _ => ?_
  cases r <;> exact .ok _

/-- A field that is not there is told to be missing. -/
theorem set_answered (e : Engine) (name : String) (v : Value) :
    FaultsOnly IsAnswered (e.set name v).2 := by
  unfold Engine.set State.set
  split
  · exact .ok ()
  · rename_i f hf
    split at hf
    · cases hf
    · cases hf
      exact .error ⟨_, rfl⟩

theorem enter_answered (e : Engine) (values : Entries) :
    FaultsOnly IsAnswered (Report.enter e values) := by
  refine FaultsOnly.foldlM (fun e p => ?_) values e
  obtain ⟨name, v⟩ := p
  have hset := set_answered e name v
  dsimp only
  split
  · exact .ok _
  · rename_i f he
    rw [he] at hset
    exact .error (hset f rfl)

theorem render_answered {e : Engine} (he : ∀ f ∈ e.form.fields, f.type.isKey = true) :
    FaultsOnly IsAnswered (e.render settings) :=
  answered_of_length (Engine.render_only he settings)

theorem answers_description {values : Except Fault Entries} (h : form.Sane)
    (hv : FaultsOnly IsAnswered values) :
    Answers (Report.description settings form values) := by
  refine Answers.bind (mount_answered h _ _) fun e he => ?_
  refine Answers.bind hv fun values _ => ?_
  refine Answers.bind (enter_answered e values) fun e' he' => ?_
  have hs : e'.Sound := (Report.enter_eq_ok he').1.sound (Engine.sound_of_mount he)
  refine Answers.bind (render_answered hs.types) fun r _ => ?_
  obtain ⟨v, -, hjson, -⟩ := form.lists_jsonSchema h.isDeclared
  obtain ⟨widgets, hui, -⟩ := form.lists_uiSchema h.isDeclared
  rw [hjson, hui]
  exact .ok _

theorem answers_describeForm (h : WellTyped arguments)
    (hd : ¬TooDeep settings arguments .describeForm) :
    Answers (describeForm settings (.record arguments)) := by
  refine Answers.bind (formArgument_only h hd (by decide)) fun v hv => ?_
  refine Answers.bind (valuesArgument_only h hd (by decide) hv) fun values hvs => ?_
  refine Answers.bind (load_answered h hd (by decide) (fun _ => ⟨_, hvs⟩) hv) fun form hf => ?_
  have ha : Answers (Report.description settings form values) :=
    answers_description (h.sane hv hf) (values_only hvs)
  refine Answers.bind ha.faults fun d hok => ?_
  split
  · rename_i o ho
    cases o with
    | integerTooLong => exact .error ⟨_, rfl⟩
    | date => exact absurd ho (Json.obstacleWithin?_ne_date nofun)
    | nestedTooDeep => exact absurd (.description hv hvs hf hok ho) hd
  · obtain ⟨es, rfl⟩ := ha.record d hok
    exact .ok _

theorem answers_lintForm (h : WellTyped arguments) (hd : ¬TooDeep settings arguments .lintForm) :
    Answers (lintForm (.record arguments)) := by
  refine Answers.bind (formArgument_only h hd (by decide)) fun v hv => ?_
  refine Answers.bind (load_answered h hd (by decide) (absurd · (by decide)) hv) fun form hf => ?_
  obtain ⟨ds, hds⟩ := (h.sane hv hf).exists_lint
  rw [Report.diagnostics, hds]
  exact .ok _

/-! ## Tools on sessions -/

theorem view_answered {e : Engine} (he : e.Sound) (id : Value) :
    FaultsOnly IsAnswered (view settings id e) :=
  (render_answered he.types).bind fun _ _ => .ok _

theorem find_answered (id : String) : FaultsOnly IsAnswered (s.find (.text id)) := by
  unfold Store.find
  rw [if_neg (by simp [SessionId.isKey])]
  split
  · exact .ok _
  · exact .error ⟨_, rfl⟩

theorem WellTyped.hasTextId (h : WellTyped arguments) (tool : String) :
    HasTextId (tool, .record arguments) :=
  fun v hv => .inr (h.id v (lookup_of_argument hv))

theorem answers_mountForm (h : WellTyped arguments)
    (hd : ¬TooDeep settings arguments .mountForm) :
    Answers (mountForm settings s (.record arguments)).2 := by
  cases hr : mountRequest (.record arguments) with
  | error f =>
    rw [mountForm_unread hr]
    refine .error (FaultsOnly.bind (formArgument_only h hd (by decide)) (fun v hv => ?_) f hr)
    exact (load_answered h hd (by decide) (absurd · (by decide)) hv).bind fun _ _ => .ok _
  | ok p =>
    obtain ⟨form, given⟩ := p
    have hsane : form.Sane := by
      obtain ⟨v, hv, hr⟩ := bind_eq_ok.1 hr
      obtain ⟨form', hf, hr⟩ := bind_eq_ok.1 hr
      cases hr
      exact h.sane hv hf
    cases hm : Engine.mount form settings.strict settings.tracing with
    | error f =>
      rw [mountForm_refused hr hm]
      exact .error (mount_answered hsane _ _ f hm)
    | ok e =>
      obtain ⟨n, id, hi⟩ := mountId_text (h.hasTextId "mount_form") hr s
      rw [mountForm_mounted hr hm, hi]
      exact .map_record (view_answered (Engine.sound_of_mount hm) _)

/-- What a session is looked up with is a text, and what is not found is told. -/
theorem session_answered (h : WellTyped arguments) {id : Value}
    (hid : argument (.record arguments) "session_id" = .ok id) :
    FaultsOnly IsAnswered (s.find id) := by
  obtain ⟨t, rfl⟩ := h.id id (lookup_of_argument hid)
  exact find_answered t

theorem answers_setFieldValue (h : WellTyped arguments) (hs : s.Sound) :
    Answers (setFieldValue settings s (.record arguments)).2 := by
  cases hr : setRequest s (.record arguments) with
  | error f =>
    rw [setFieldValue_unread hr]
    refine .error (FaultsOnly.bind argument_only (fun id hid => ?_) f hr)
    exact (session_answered h hid).bind fun _ _ => argument_only.bind fun _ _ => .ok _
  | ok p =>
    obtain ⟨id, x, name, v⟩ := p
    have hx := hs.forms x (Store.find_eq_ok (find_of_setRequest hr)).1
    obtain ⟨n, rfl⟩ : ∃ n, name = .text n := by
      obtain ⟨_, -, hr⟩ := bind_eq_ok.1 hr
      obtain ⟨_, -, hr⟩ := bind_eq_ok.1 hr
      obtain ⟨name', hn, hr⟩ := bind_eq_ok.1 hr
      cases hr
      exact h.name name (lookup_of_argument hn)
    rcases setField_cases x.engine (.text n) v with ⟨f, hf, -⟩ | ⟨_, _, e, -, -, hf, hre, -⟩
    · rw [setFieldValue_refused hr hf]
      exact .error (set_answered x.engine n v f (congrArg Prod.snd hf))
    · rw [setFieldValue_set hr hf]
      exact .map_record (view_answered (hre.sound hx) id)

theorem submitForm_answer (settings : Settings) {id : Value} {x : Session} {e : Engine} {r : Result}
    (hr : submitRequest s (.record arguments) = .ok (id, x))
    (he : x.engine.submit (some recording) = (e, .ok r)) :
    ∃ more, (submitForm settings s (.record arguments)).2 =
      (view settings id e).map fun es => .record (es ++ more) := by
  unfold submitRequest at hr
  unfold submitForm
  simp only [hr, he]
  exact ⟨_, rfl⟩

theorem answers_submitForm (h : WellTyped arguments) (hs : s.Sound) :
    Answers (submitForm settings s (.record arguments)).2 := by
  cases hr : submitRequest s (.record arguments) with
  | error f =>
    rw [submitForm_unread hr]
    refine .error (FaultsOnly.bind argument_only (fun id hid => ?_) f hr)
    exact (session_answered h hid).bind fun _ _ => .ok _
  | ok p =>
    obtain ⟨id, x⟩ := p
    have hx := hs.forms x (Store.find_eq_ok (find_of_submitRequest hr)).1
    cases hv : x.engine.schema.validate x.engine.state.values with
    | error f =>
      obtain ⟨e, he, -⟩ := submit_fault hv
      rw [submitForm_fault hr he]
      exact .error (answered_of_length (Schema.validate_only hx.schema _) f hv)
    | ok r =>
      obtain ⟨e, he, hre, -⟩ := submit_result hv
      obtain ⟨more, ha⟩ := submitForm_answer settings hr he
      rw [ha]
      exact .map_record (view_answered (hre.sound hx) id)

theorem answers_unmountForm (h : WellTyped arguments) :
    Answers (unmountForm s (.record arguments)).2 := by
  cases hid : argument (.record arguments) "session_id" with
  | error f =>
    unfold unmountForm
    rw [hid]
    exact .error (argument_only f hid)
  | ok id =>
    obtain ⟨t, rfl⟩ := h.id id (lookup_of_argument hid)
    rw [unmountForm_text hid]
    exact .ok _

/-! ## Calls -/

theorem answers_run (h : WellTyped arguments) (hs : s.Sound) {t : Tool}
    (hd : ¬TooDeep settings arguments t) :
    Answers (run settings s t (.record arguments)).2 := by
  cases t with
  | validateForm => exact answers_validateForm h hd
  | describeForm => exact answers_describeForm h hd
  | lintForm => exact answers_lintForm h hd
  | mountForm => exact answers_mountForm h hd
  | setFieldValue => exact answers_setFieldValue h hs
  | submitForm => exact answers_submitForm h hs
  | unmountForm => exact answers_unmountForm h

theorem load_tooDeep {text : String} {place : Json.Position}
    (hr : Json.read text = .error ⟨.nestedTooDeep, place⟩) :
    Form.load (.text text) = .error .nestedTooDeep := by
  rw [Form.load, Form.ofText_eq (by simp [hr]), Value.ofJson, hr]
  rfl

theorem formArgument_tooDeep {v : Value} (hv : arguments.lookup "form" = some v)
    (ho : Json.obstacle? false v = some .nestedTooDeep) :
    formArgument (.record arguments) = .error .nestedTooDeep := by
  have hw : v.writable = .error .nestedTooDeep := by
    rw [Value.writable, ho]
    rfl
  refine bind_eq_error.2 (.inr ⟨some v, congrArg Except.ok hv, ?_⟩)
  rw [Option.getD_some]
  cases v with
  | null => cases ho
  | _ => exact hw

theorem valuesArgument_tooDeep {w : Value} (hw : arguments.lookup "values" = some w)
    (ho : Json.obstacle? false w = some .nestedTooDeep) :
    valuesArgument (.record arguments) = .error .nestedTooDeep := by
  refine bind_eq_error.2 (.inr ⟨some w, congrArg Except.ok hw, bind_eq_error.2 (.inl ?_)⟩)
  rw [Option.getD_some, Value.writable, ho]
  rfl

/-- **There is no answer where something is nested too deeply.** -/
theorem run_tooDeep {t : Tool} (h : TooDeep settings arguments t) (s : Store) :
    (run settings s t (.record arguments)).2 = .error .nestedTooDeep := by
  cases h with
  | @form _ v ht hv ho =>
    have hf := formArgument_tooDeep hv ho
    cases t with
    | validateForm | describeForm | lintForm => exact bind_eq_error.2 (.inl hf)
    | mountForm =>
      exact congrArg Prod.snd (mountForm_unread (bind_eq_error.2 (.inl hf)))
    | setFieldValue | submitForm | unmountForm => exact absurd ht (by decide)
  | @values _ v w ht hf hw ho =>
    have hvs := valuesArgument_tooDeep hw ho
    cases t with
    | validateForm | describeForm =>
      exact bind_eq_error.2 (.inr ⟨v, hf, bind_eq_error.2 (.inl hvs)⟩)
    | lintForm | mountForm | setFieldValue | submitForm | unmountForm =>
      exact absurd ht (by decide)
  | @text _ text place ht hvs hs hr =>
    have hf : formArgument (.record arguments) = .ok (.text text) :=
      formArgument_eq_ok.2 ⟨congrArg Except.ok hs, by simp, rfl⟩
    have hl := load_tooDeep hr
    cases t with
    | validateForm =>
      obtain ⟨values, hvs⟩ := hvs (by decide)
      refine bind_eq_error.2 (.inr ⟨_, hf, bind_eq_error.2 (.inr ⟨values, hvs, ?_⟩)⟩)
      refine bind_eq_error.2 (.inl ?_)
      rw [hl]
      rfl
    | describeForm =>
      obtain ⟨values, hvs⟩ := hvs (by decide)
      refine bind_eq_error.2 (.inr ⟨_, hf, bind_eq_error.2 (.inr ⟨values, hvs, ?_⟩)⟩)
      exact bind_eq_error.2 (.inl hl)
    | lintForm => exact bind_eq_error.2 (.inr ⟨_, hf, bind_eq_error.2 (.inl hl)⟩)
    | mountForm =>
      refine congrArg Prod.snd (mountForm_unread (bind_eq_error.2 (.inr ⟨_, hf, ?_⟩)))
      exact bind_eq_error.2 (.inl hl)
    | setFieldValue | submitForm | unmountForm => exact absurd ht (by decide)
  | @description v d values form hv hvs hf hd ho =>
    refine bind_eq_error.2 (.inr ⟨v, hv, bind_eq_error.2 (.inr ⟨values, hvs, ?_⟩)⟩)
    refine bind_eq_error.2 (.inr ⟨form, hf, bind_eq_error.2 (.inr ⟨d, hd, ?_⟩)⟩)
    rw [ho]
    rfl

/-- The text of a form that opens more arrays than may be nested. -/
theorem brackets_are_not_answered (settings : Settings) (calls : List (String × Value)) {n : Nat}
    (hn : Value.maxNesting < n) :
    let arguments : Entries := [("form", .text (String.ofList (List.replicate n '[')))]
    WellTyped arguments ∧
      (call settings (callAll settings calls) "lint_form" (.record arguments)).2 =
        .error .nestedTooDeep := by
  obtain ⟨place, hr⟩ := Json.read_brackets hn
  generalize String.ofList (List.replicate n '[') = text at hr ⊢
  intro arguments
  constructor
  · refine ⟨?plain, ?id, ?name, ?paired, ?patterns⟩
    case plain => exact Value.isPlain_record.2 (by simp [arguments, Value.IsPlain])
    case id =>
      intro v hv
      cases hv
    case name =>
      intro v hv
      cases hv
    case paired =>
      intro s hs place' hp
      cases hs
      cases hr.symm.trans hp
    case patterns =>
      intro v form hv hf
      cases hv
      rw [load_tooDeep hr] at hf
      cases hf
  · have ht : Tool.ofName? "lint_form" = some .lintForm := by decide
    rw [call_known ht, run_tooDeep (.text (by decide) (absurd · (by decide)) rfl hr)]
    rfl

end
end Service
end Formulary
