/-
  Tools without a session, through text.

  The service writes the form and the values that it is given, has a report made
  on the texts, and reads the report.

  * `Field.Tidy` are the fields that are tidy as values are; so are those of a form
    that is loaded, `Form.tidy_of_load`, and what is described of such a form,
    `Report.tidy_description`;
  * `Service.formText` and `Service.valuesText` are the texts that are reported on;
  * `validateForm_eq`, `describeForm_eq` and `lintForm_eq`: each tool gives the
    report of the same name on the texts, as it is read.
-/
import Formulary.Proofs.Form.Keyword
import Formulary.Proofs.Report.Answer

namespace Formulary

/-! ## Tidy values -/

namespace Value

theorem inherent_tidy : Inherent Tidy :=
  ⟨Json.tidy_of_read, tidy_list.1, fun h => (tidy_record.1 h).2⟩

theorem tidy_null : null.Tidy := trivial

theorem tidy_ofText? (s? : Option String) : (ofText? s?).Tidy := by
  cases s? <;> trivial

theorem tidy_ofList {es : Entries} (h : ∀ p ∈ es, p.2.Tidy) :
    (record (Entries.ofList es)).Tidy :=
  tidy_record.2 ⟨Entries.nodup_keys_ofList es, Entries.forall_ofList h⟩

theorem tidy_foldl_put {es acc : Entries} (ha : (record acc).Tidy) (h : ∀ p ∈ es, p.2.Tidy) :
    (record (es.foldl (fun acc e => Entries.put e.1 e.2 acc) acc)).Tidy := by
  obtain ⟨hk, ha⟩ := tidy_record.1 ha
  exact tidy_record.2 ⟨Entries.nodup_keys_foldl_put es hk, Entries.forall_foldl_put h ha⟩

end Value

theorem Schema.tidy_valueOf {values : Entries} (h : (Value.record values).Tidy) (name : String) :
    (valueOf values name).Tidy := by
  unfold valueOf
  cases hl : values.lookup name with
  | none => trivial
  | some v => exact (Value.tidy_record.1 h).2 _ (Entries.mem_of_lookup hl)

/-! ## Tidy fields -/

/-- Whether the arguments of a field's rules and the value that it starts from are
    tidy. -/
@[mk_iff]
structure Field.Tidy (f : Field) : Prop where
  arguments : ∀ r ∈ f.rules, r.argument.Tidy
  default : f.default.Tidy

theorem Field.Tidy.initialValue {f : Field} (h : f.Tidy) : f.initialValue.Tidy := by
  unfold Field.initialValue emptyValue
  split
  · split <;> trivial
  · exact h.default

theorem Field.yields_tidy : Read.Yields Value.Tidy read Field.Tidy := by
  intro v f hv h
  obtain ⟨es, rfl, hes⟩ := read_eq_ok.1 h
  have hv := (Value.tidy_record.1 hv).2
  have hr := (Rule.yields_read Value.inherent_tidy Value.tidy_null).list Value.inherent_tidy
  exact ⟨hr.allow hv (by simp) hes.rules, Read.yields_value.allow hv Value.tidy_null hes.default⟩

theorem Sample.tidy : ∀ p ∈ Sample.all, ∀ f ∈ p.2.fields, f.Tidy := by
  simp [Sample.all, login, registration, contact, email, password, text, rule, ruleOf,
    Field.tidy_iff, Value.Tidy]

/-- The fields of a form that is loaded from a tidy value are tidy. -/
theorem Form.tidy_of_load {form : Form} {v : Value} (hv : v.Tidy) (h : load v = .ok form) :
    ∀ f ∈ form.fields, f.Tidy :=
  fields_of_load Value.inherent_tidy Field.yields_tidy Sample.tidy hv h

/-! ## Tidy descriptions -/

namespace Export
variable {f : Field}

theorem tidy_enum (f : Field) : ∀ p ∈ enum f, p.2.Tidy := by
  unfold enum
  split
  · rw [List.forall_mem_singleton, Value.tidy_list, List.forall_mem_map]
    rintro c -
    cases c.value <;> trivial
  · exact List.forall_mem_nil _

/-- The keywords of a field that are no rule's are different. -/
theorem nodup_keys_base (known : Option FieldType) (f : Field) : (Entries.keys
    ([("type", .text (known.elim "string" typeName)), ("title", .text f.label)]
      ++ ((known.bind format?).map fun s => ("format", Value.text s)).toList
      ++ enum f
      ++ (if f.default = .null then [] else [("default", f.default)]))).Nodup := by
  unfold enum
  cases known.bind format? <;> split <;> split <;> simp [Entries.keys]

theorem tidy_property (h : f.Tidy) : (Value.record (property f)).Tidy := by
  unfold property
  extract_lets known base
  refine Value.tidy_foldl_put (Value.tidy_record.2 ⟨nodup_keys_base known f, ?base⟩) ?rules
  case base =>
    have hdefault : ∀ p ∈ if f.default = .null then [] else [("default", f.default)],
        p.2.Tidy := by
      split
      · exact List.forall_mem_nil _
      · exact List.forall_mem_singleton.2 h.default
    have hformat : ∀ p ∈ ((known.bind format?).map fun s => ("format", Value.text s)).toList,
        p.2.Tidy := by
      cases known.bind format? <;> simp [Value.Tidy]
    simp only [base, List.forall_mem_append]
    exact ⟨⟨⟨by simp [Value.Tidy], hformat⟩, tidy_enum f⟩, hdefault⟩
  case rules =>
    intro p hp
    obtain ⟨r, hr, hk⟩ := List.mem_filterMap.1 hp
    exact (Export.keyword_eq_some.1 hk).2.2.2 ▸ h.arguments r hr

theorem tidy_widget {es : Entries} (h : widget f = .ok es) : (Value.record es).Tidy := by
  unfold widget at h
  split at h
  · cases h
    cases f.placeholder with
    | none => simp [Value.Tidy, Value.TidyEntries, Entries.keys]
    | some p =>
      dsimp only
      split <;> simp [Value.Tidy, Value.TidyEntries, Entries.keys]
  · cases h

end Export

namespace Form
variable {form : Form}

theorem tidy_jsonSchema (hf : ∀ f ∈ form.fields, f.Tidy) {v : Value}
    (h : form.jsonSchema = .ok v) : v.Tidy := by
  unfold jsonSchema at h
  split at h
  · cases h
    refine Value.tidy_record.2 ⟨by simp [Entries.keys], ?_⟩
    simp only [List.forall_mem_cons]
    refine ⟨trivial, trivial, Value.tidy_ofText? _, Value.tidy_ofList ?_, ?_, List.forall_mem_nil _⟩
    · rw [List.forall_mem_map]
      exact fun f hm => Export.tidy_property (hf f hm)
    · rw [Value.tidy_list, List.forall_mem_map]
      exact fun _ _ => trivial
  · cases h

theorem tidy_uiSchema {v : Value} (h : form.uiSchema = .ok v) : v.Tidy := by
  obtain ⟨widgets, hw, h⟩ := bind_eq_ok.1 h
  cases h
  refine Value.tidy_ofList fun p hp => ?_
  obtain ⟨f, -, he⟩ := forall₂_mem_left (mapM_eq_ok.1 hw).flip p hp
  obtain ⟨es, hes, rfl⟩ := map_eq_ok.1 he
  exact Export.tidy_widget hes

end Form

theorem Control.tidy_toValue {c : Control} (h : c.value.Tidy) : c.toValue.Tidy := by
  refine Value.tidy_record.2 ⟨by simp [Entries.keys], ?_⟩
  simp only [List.forall_mem_cons]
  refine ⟨trivial, trivial, trivial, Value.tidy_ofText? _, h, trivial, ?_, List.forall_mem_nil _⟩
  rw [Value.tidy_list, List.forall_mem_map]
  intro choice _
  simp [ShownChoice.toValue, Value.tidy_record, Value.Tidy, Entries.keys]

/-- The control of a field shows its value, or whether that counts as something. -/
theorem Field.tidy_render {f : Field} {settings : Settings} {v : Value} {error : Option String}
    (hk : f.type.isKey = true) (hv : v.Tidy) {c : Control}
    (h : f.render settings v error = .ok (some c)) : c.value.Tidy := by
  cases ht : f.type.known? with
  | some t =>
    rw [render_known ht, map_eq_ok] at h
    obtain ⟨c', hc, he⟩ := h
    obtain rfl := Option.some.inj he
    rw [(control_presents hc).value]
    split
    · trivial
    · exact hv
  | none =>
    rw [render, if_neg (by simp [hk]), ht] at h
    dsimp only at h
    split at h <;> cases h

namespace Report
variable {settings : Settings} {form : Form}

/-- What is entered is entered in the same form, and put among its values. -/
theorem enter_eq_ok {e e' : Engine} {values : Entries} (h : enter e values = .ok e') :
    e.Reaches e' ∧
      e'.state.values = values.foldl (fun acc p => Entries.put p.1 p.2 acc) e.state.values := by
  unfold enter at h
  induction values generalizing e with
  | nil =>
    cases h
    exact ⟨.refl, rfl⟩
  | cons p values ih =>
    obtain ⟨name, v⟩ := p
    obtain ⟨e₁, he, h⟩ := bind_eq_ok.1 h
    have hset : e.Reaches (e.set name v).1 := Engine.reaches_set _ name v
    dsimp only at he
    cases hs : e.state.set name v with
    | error f =>
      rw [Engine.set_error hs] at he
      cases he
    | ok s =>
      rw [Engine.set_ok hs] at he hset
      cases he
      obtain ⟨hr, hv⟩ := ih h
      unfold State.set at hs
      split at hs <;> cases hs
      exact ⟨hset.trans hr, hv⟩

theorem tidy_description {data : Except Fault Entries} {d : Value}
    (hf : ∀ f ∈ form.fields, f.Tidy) (hs : settings.defaultSubmitText.Tidy)
    (hv : ∀ values, data = .ok values → ∀ p ∈ values, p.2.Tidy)
    (h : description settings form data = .ok d) : d.Tidy := by
  obtain ⟨e, he, h⟩ := bind_eq_ok.1 h
  obtain ⟨values, hvs, h⟩ := bind_eq_ok.1 h
  obtain ⟨e', he', h⟩ := bind_eq_ok.1 h
  obtain ⟨r, hr, h⟩ := bind_eq_ok.1 h
  obtain ⟨j, hj, h⟩ := bind_eq_ok.1 h
  obtain ⟨u, hu, h⟩ := bind_eq_ok.1 h
  cases h
  obtain ⟨hreach, hvalues⟩ := enter_eq_ok he'
  obtain ⟨-, -, hstate, -⟩ := Engine.mount_eq_ok he
  have hsound := hreach.sound (Engine.sound_of_mount he)
  have htidy : (Value.record e'.state.values).Tidy := by
    rw [hvalues, hstate]
    refine Value.tidy_foldl_put (Value.tidy_ofList ?_) (hv values hvs)
    rw [List.forall_mem_map]
    exact fun f hm => (hf f hm).initialValue
  obtain ⟨controls, hc, hr⟩ := bind_eq_ok.1 hr
  cases hr
  refine Value.tidy_record.2 ⟨by simp [Entries.keys], ?_⟩
  simp only [List.forall_mem_cons]
  refine ⟨Value.tidy_ofText? _, ?submitText, ?controls, Form.tidy_jsonSchema hf hj,
    Form.tidy_uiSchema hu, List.forall_mem_nil _⟩
  case submitText =>
    split
    · split
      · exact hs
      · trivial
    · exact hs
  case controls =>
    rw [Value.tidy_list, List.forall_mem_map]
    intro c hmem
    obtain ⟨f, hfm, hfr⟩ := mem_of_filterMapM hc hmem
    exact Control.tidy_toValue (Field.tidy_render (hsound.types f (Form.mem_of_mem_ownFields hfm))
      (Schema.tidy_valueOf htidy f.name) hfr)

/-- Diagnostics are texts by key: nothing stops them from being written. -/
theorem diagnostics_written {d : Value} (h : diagnostics form = .ok d) :
    d.Tidy ∧ d.IsPlain ∧ Json.obstacle? true d = none := by
  obtain ⟨ds, -, h⟩ := bind_eq_ok.1 h
  cases h
  rw [Value.tidy_list, Value.isPlain_list, Json.obstacle?_eq_none, Value.isShort_list]
  simp only [List.forall_mem_map]
  refine ⟨fun x _ => ?tidy, fun x _ => ?plain, fun x _ => rfl, ?nesting, nofun⟩
  case tidy => simp [Diagnostic.toValue, Value.Tidy, Value.TidyEntries, Entries.keys]
  case plain => simp [Diagnostic.toValue, Value.IsPlain, Value.IsPlainEntries]
  case nesting =>
    refine (Value.levels_list_le (n := 1)).2 ?_ |>.trans (by decide)
    rw [List.forall_mem_map]
    exact fun x _ => Nat.le_refl 1

end Report

/-! ## Texts -/

namespace Service

/-- The text of the form that is given: itself, or the value as it is written. -/
def formText (arguments : Value) : Except Fault String := do
  match ← formArgument arguments with
  | .text s => return s
  | v => return Json.write .ascii v

/-- The text of the values that are given. -/
def valuesText (arguments : Value) : Except Fault String := do
  return Json.write .ascii (← ((← argument? arguments "values").getD (.record [])).writable)

variable {settings : Settings} {arguments : Entries} {v : Value} {s : String}

/-- A tidy value that can be written is read back. -/
theorem read_of_writable {w : Value} (ht : v.Tidy) (hw : v.writable = .ok w) :
    Json.read (Json.write .ascii w) = .ok w := by
  obtain ⟨ho, rfl⟩ := Value.writable_eq_ok.1 hw
  obtain ⟨hs, hn, hp⟩ := Json.obstacle?_eq_none.1 ho
  have hl : v.Legible := ⟨ht, hs⟩
  rw [hl.read_write hn Json.readable_ascii, Value.asJson_plain (hp rfl)]

/-- **The form of the text** is the form that is given. -/
theorem formText_eq_ok (ht : (Value.record arguments).Tidy)
    (h : formArgument (.record arguments) = .ok v) : v.Tidy ∧
      ∃ s, formText (.record arguments) = .ok s ∧ Form.ofText s = Form.load v := by
  obtain ⟨hv, -, ho⟩ := formArgument_eq_ok.1 h
  have hv : v.Tidy :=
    (Value.tidy_record.1 ht).2 _ (Entries.mem_of_lookup (Except.ok.inj hv))
  have hread := read_of_writable hv (Value.writable_eq_ok.2 ⟨ho, rfl⟩)
  have hof : Form.ofText (Json.write .ascii v) = Form.ofValue v := Form.load_text hread
  refine ⟨hv, ?_⟩
  rw [formText, h]
  cases v with
  | text s => exact ⟨s, rfl, rfl⟩
  | _ => exact ⟨_, rfl, hof⟩

/-- A text that is read is not empty, so the values are read off it. -/
theorem ofJson_of_read (h : Json.read s = .ok v) :
    Value.ofJson (if s.isEmpty then "\x7b\x7d" else s) = .ok v := by
  have hs : ¬s.isEmpty := by
    intro hs
    obtain rfl : s = "" := by simpa using hs
    cases h
  rw [if_neg hs, Value.ofJson, h]
  rfl

/-- **The data of the text** is the values that are given. -/
theorem valuesArgument_eq (ht : (Value.record arguments).Tidy) :
    valuesArgument (.record arguments) = (valuesText (.record arguments)).map Form.data := by
  have hv : ((arguments.lookup "values").getD (.record [])).Tidy := by
    cases hl : arguments.lookup "values" with
    | none => exact Value.tidy_record.2 ⟨List.nodup_nil, List.forall_mem_nil _⟩
    | some v => exact (Value.tidy_record.1 ht).2 _ (Entries.mem_of_lookup hl)
  have hargument : argument? (.record arguments) "values" = .ok (arguments.lookup "values") := rfl
  rw [valuesArgument, valuesText, hargument]
  change (Value.writable _ >>= _) = Except.map _ (Value.writable _ >>= _)
  cases hw : ((arguments.lookup "values").getD (.record [])).writable with
  | error f => rfl
  | ok w =>
    change _ = Except.ok (Form.data (Json.write .ascii w))
    rw [Form.data, ofJson_of_read (read_of_writable hv hw)]
    cases w <;> rfl

/-! ## Tools -/

/-- What is written of a tidy value is read back, with dates as text. -/
theorem ofJson_of_write {d : Value} (ht : d.Tidy) : (Report.write d >>= Value.ofJson) =
    match Json.obstacle? true d with
    | some o => .error (.ofObstacle o)
    | none => .ok (d.asJson false) := by
  rw [Report.write]
  cases ho : Json.obstacle? true d with
  | some o => rfl
  | none =>
    obtain ⟨hs, hn, -⟩ := Json.obstacle?_eq_none.1 ho
    have hl : d.Legible := ⟨ht, hs⟩
    change Value.ofJson (Json.write .asciiLines d) = _
    rw [Value.ofJson, hl.read_write hn Json.readable_asciiLines]
    rfl

/-- **To validate values** is to have a report made on the texts, and to read it. -/
theorem validateForm_eq (ht : (Value.record arguments).Tidy) :
    validateForm settings (.record arguments) = (do
      let form ← formText (.record arguments)
      let values ← valuesText (.record arguments)
      Value.ofJson (← Report.validate settings form values)) := by
  cases hf : formArgument (.record arguments) with
  | error f => rw [validateForm, formText, hf]; rfl
  | ok v =>
    obtain ⟨-, form, hform, hload⟩ := formText_eq_ok ht hf
    rw [validateForm, hf, valuesArgument_eq ht, hform]
    cases valuesText (.record arguments) with
    | error f => rfl
    | ok data =>
      change (Report.validation settings (Form.load v) (Form.data data) >>= fun report => _) =
        (Report.validate settings form data >>= Value.ofJson)
      rw [Report.validate, hload]
      cases hr : Report.validation settings (Form.load v) (Form.data data) with
      | error f => rfl
      | ok report =>
        change (report.write >>= _) = (report.write >>= Value.ofJson)
        cases hw : report.write with
        | error f => rfl
        | ok text =>
          change _ = Value.ofJson text
          rw [Value.ofJson, (Report.says_of_validation (hload ▸ hr)).read_write hw]
          rfl

/-- **To describe a form** is to have a report made on the texts, and to read it. -/
theorem describeForm_eq (ht : (Value.record arguments).Tidy)
    (hs : settings.defaultSubmitText.Tidy) :
    describeForm settings (.record arguments) = (do
      let form ← formText (.record arguments)
      let values ← valuesText (.record arguments)
      Value.ofJson (← Report.describe settings form values)) := by
  cases hf : formArgument (.record arguments) with
  | error f => rw [describeForm, formText, hf]; rfl
  | ok v =>
    obtain ⟨hv, form, hform, hload⟩ := formText_eq_ok ht hf
    rw [describeForm, hf, valuesArgument_eq ht, hform]
    cases valuesText (.record arguments) with
    | error f => rfl
    | ok data =>
      change (Form.load v >>= _) = (Report.describe settings form data >>= Value.ofJson)
      rw [Report.describe, hload]
      cases hl : Form.load v with
      | error f => rfl
      | ok x =>
        change (Report.description settings x (Form.data data) >>= _) =
          ((Report.description settings x (Form.data data) >>= Report.write) >>= Value.ofJson)
        cases hd : Report.description settings x (Form.data data) with
        | error f => rfl
        | ok d =>
          have hdata : ∀ values, Form.data data = .ok values → ∀ p ∈ values, p.2.Tidy :=
            fun values h => (Value.tidy_record.1 (Form.legible_of_data h).tidy).2
          have htidy := Report.tidy_description (Form.tidy_of_load hv hl) hs hdata hd
          change _ = (Report.write d >>= Value.ofJson)
          rw [ofJson_of_write htidy]
          rfl

/-- **To lint a form** is to have a report made on its text, and to read it. -/
theorem lintForm_eq (ht : (Value.record arguments).Tidy) :
    lintForm (.record arguments) = (do
      let report ← Report.lint (← formText (.record arguments))
      return .record [("diagnostics", ← Value.ofJson report)]) := by
  cases hf : formArgument (.record arguments) with
  | error f => rw [lintForm, formText, hf]; rfl
  | ok v =>
    obtain ⟨-, form, hform, hload⟩ := formText_eq_ok ht hf
    rw [lintForm, hf, hform]
    change (Form.load v >>= _) = (Report.lint form >>= _)
    rw [Report.lint, hload]
    cases Form.load v with
    | error f => rfl
    | ok x =>
      change (Report.diagnostics x >>= _) = ((Report.diagnostics x >>= Report.write) >>= _)
      cases hd : Report.diagnostics x with
      | error f => rfl
      | ok d =>
        obtain ⟨htidy, hplain, ho⟩ := Report.diagnostics_written hd
        have hread := ofJson_of_write htidy
        rw [ho, Value.asJson_plain hplain] at hread
        obtain ⟨text, htext, hread⟩ := bind_eq_ok.1 hread
        change _ = (Report.write d >>= _)
        rw [htext]
        change _ = (Value.ofJson text >>= _)
        rw [hread]

end Service
end Formulary
