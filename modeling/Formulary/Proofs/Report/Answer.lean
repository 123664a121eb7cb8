/-
  Whether there is a report on the text of a form and that of its data.

  What is wrong with either text is reported, unless it is nested too deeply; what
  is wrong with a form that is read is not.

  * `Schema.compile_stops`: what keeps a form that is read from being compiled is
    a pattern out of bounds or, strictly, whatever fields are refused for;
  * `Report.Says` is what a report says, and `Report.Stops` what keeps it from
    being made;
  * `Report.reports_iff`: there is a report unless something of the latter stops
    it, and it says what is the matter with the texts, or else the result.
-/
import Formulary.Proofs.Permissive
import Formulary.Proofs.Report.Reading

namespace Formulary

/-! ## Forms that are read -/

/-- A rule of a field that is read cannot be read iff its pattern is out of
    bounds. -/
theorem Field.Legible.isUnreadable_iff {f : Field} (h : f.Legible) : f.IsUnreadable ↔
    ∃ r ∈ f.rules, r.kind.appliesTo f.type = true ∧ r.IsOutOfBounds := by
  refine exists_congr fun r => and_congr_right fun hr => ?_
  have hs : r.argument.hasLongInt = false := h.arguments r hr
  simp [Rule.isUnreadable_iff, hs]

/-- **What keeps fields that are read from being compiled** is a pattern out of
    bounds or, strictly, a repeated name or something that a field by itself is
    objected to for. -/
theorem Schema.compile_stops {strict : Bool} {fields : List Field}
    (hl : ∀ f ∈ fields, f.Legible) : (∃ e, compile strict fields = .error e) ↔
      (∃ f ∈ fields, ∃ r ∈ f.rules, r.kind.appliesTo f.type = true ∧ r.IsOutOfBounds) ∨
      strict = true ∧ (¬(fields.map (·.name)).Nodup ∨ ∃ f ∈ fields, f.IsObjectionable) := by
  have hd : ∀ f ∈ fields, ∃ t, f.type = .declared t := fun f hf => (hl f hf).type
  have hu : (∃ f ∈ fields, ∃ r ∈ f.rules, r.kind.appliesTo f.type = true ∧ r.IsOutOfBounds) ↔
      ∃ f ∈ fields, f.IsUnreadable :=
    exists_congr fun f => and_congr_right fun hf => (hl f hf).isUnreadable_iff.symm
  rw [hu]
  cases strict with
  | false => simpa using compile_faults hd
  | true =>
    cases hlint : lint fields with
    | error e =>
      -- the linter stops where the compiler does
      refine iff_of_true ⟨e, ?_⟩ (.inl ((lint_faults hd).1 ⟨e, hlint⟩))
      rw [compile, if_pos rfl, hlint]
      rfl
    | ok ds =>
      have hn : ¬∃ f ∈ fields, f.IsUnreadable := by
        rw [← lint_faults hd, hlint]
        simp
      rw [or_iff_right hn, and_iff_right rfl, ← lint_objects hlint, compile_strict hlint]
      by_cases he : HasError ds
      · simp [he]
      · obtain ⟨s, hs⟩ := ofFields_of_lint hlint he
        simp [he, hs]

/-! ## Texts that are read -/

/-- Whether a text is read without meeting half of a pair of surrogates. -/
def Json.Paired (s : String) : Prop := ∀ place, Json.read s ≠ .error ⟨.loneSurrogate, place⟩

theorem Json.Paired.ofFailure_ne {s : String} (h : Json.Paired s) {e : Json.Failure}
    (he : Json.read s = .error e) : Fault.ofFailure e ≠ .loneSurrogate := by
  obtain ⟨problem, place⟩ := e
  rcases Fault.ofFailure_cases ⟨problem, place⟩ with ⟨-, hf⟩ | ⟨rfl, -⟩ | hf
  · simp [hf]
  · exact absurd he (h place)
  · simp [hf]

theorem Form.ofText_paired {s : String} (h : Json.Paired s) :
    ofText s ≠ .error .loneSurrogate := by
  intro he
  rcases ofText_only s _ he with ⟨e, hr, hf⟩ | ⟨rs, hf⟩
  · exact h.ofFailure_ne hr hf.symm
  · cases hf

theorem Form.data_paired {s : String} (h : Json.Paired s) : data s ≠ .error .loneSurrogate := by
  intro he
  rcases data_only s _ he with ⟨e, hr, hf⟩ | ⟨kind, hf⟩
  · exact h.ofFailure_ne hr hf.symm
  · cases hf

/-! ## What is said -/

namespace Report

/-- What is said of the text of a form and that of its data: what is wrong with
    the first that cannot be read, or else the result for the data. -/
inductive Says (settings : Settings) (form data : String) : Validation → Prop
  /-- The form is no JSON. -/
  | unreadable {f : Json.Failure} {message : String} (hf : Form.ofText form = .error (.unreadable f))
      (hm : failure (.unreadable f) = .ok (.failed "parse_error" message)) :
      Says settings form data (.failed "parse_error" message)
  /-- The form is JSON, but no form. -/
  | refused {rs : Refusals} (hf : Form.ofText form = .error (.refused rs)) :
      Says settings form data
        (.failed "config_error" ("Invalid form config: " ++ rs.headline))
  /-- The form can be read, and the data is no JSON or no object. -/
  | noData {f : Form} {fault : Fault} {message : String} (hf : Form.ofText form = .ok f)
      (hd : Form.data data = .error fault)
      (hm : failure fault = .ok (.failed "parse_error" message)) :
      Says settings form data (.failed "parse_error" message)
  /-- Both can be read. -/
  | result {f : Form} {values : Entries} {s : Schema} {r : Result}
      (hf : Form.ofText form = .ok f) (hd : Form.data data = .ok values)
      (hs : Schema.compile settings.strict f.fields = .ok s)
      (hr : s.validate values = .ok r) : Says settings form data (.result r)

section
variable {settings : Settings} {form data : String}

theorem failure_unreadable (f : Json.Failure) :
    ∃ message, failure (.unreadable f) = .ok (.failed "parse_error" message) := by
  obtain ⟨problem, place⟩ := f
  cases problem <;> exact ⟨_, rfl⟩

/-- What is said of a text that is not read. -/
theorem failure_ofFailure {e : Json.Failure} {v : Validation}
    (h : failure (.ofFailure e) = .ok v) :
    Fault.ofFailure e = .unreadable e ∧ ∃ message, v = .failed "parse_error" message := by
  rcases Fault.ofFailure_cases e with ⟨-, hf⟩ | ⟨-, hf⟩ | hf
  · rw [hf] at h
    cases h
  · rw [hf] at h
    cases h
  · obtain ⟨message, hm⟩ := failure_unreadable e
    rw [hf, hm] at h
    exact ⟨hf, message, (Except.ok.inj h).symm⟩

theorem failure_of_data {f : Fault} (h : Form.data data = .error f) {v : Validation}
    (hv : failure f = .ok v) : ∃ message, v = .failed "parse_error" message := by
  rcases Form.data_only data f h with ⟨e, -, rfl⟩ | ⟨kind, rfl⟩
  · exact (failure_ofFailure hv).2
  · exact ⟨_, (Except.ok.inj hv).symm⟩

/-- **What is reported is said of the texts.** -/
theorem says_of_validation {v : Validation}
    (h : validation settings (Form.ofText form) (Form.data data) = .ok v) :
    Says settings form data v := by
  cases hf : Form.ofText form with
  | error f =>
    rw [hf] at h
    change failure f = .ok v at h
    rcases Form.ofText_only form f hf with ⟨e, -, rfl⟩ | ⟨rs, rfl⟩
    · obtain ⟨hu, message, rfl⟩ := failure_ofFailure h
      rw [hu] at hf h
      exact .unreadable hf h
    · cases h
      exact .refused hf
  | ok f =>
    cases hd : Form.data data with
    | error fault =>
      rw [hf, hd] at h
      change failure fault = .ok v at h
      obtain ⟨message, rfl⟩ := failure_of_data hd h
      exact .noData hf hd h
    | ok values =>
      rw [hf, hd] at h
      obtain ⟨s, hs, h⟩ := bind_eq_ok.1 h
      obtain ⟨r, hr, h⟩ := bind_eq_ok.1 h
      cases h
      exact .result hf hd hs hr

theorem Says.read_write {v : Validation} {text : String} (h : Says settings form data v)
    (hw : v.write = .ok text) : Json.read text = .ok (v.toValue.asJson true) := by
  refine Validation.read_write (fun r hv => ?_) hw
  cases h with
  | result hf hd hs hr =>
    cases hv
    exact Schema.legible_of_validate (Schema.ofFields_of_compile hs) (Form.legible_of_data hd) hr
  | _ => cases hv

/-! ## Whether anything is said -/

/-- What keeps the text of a form and that of its data from being reported on. -/
inductive Stops (settings : Settings) (form data : String) : Prop
  /-- The form is nested too deeply. -/
  | form (hf : Form.ofText form = .error .nestedTooDeep)
  /-- The form can be read, and the data is nested too deeply. -/
  | data {f : Form} (hf : Form.ofText form = .ok f) (hd : Form.data data = .error .nestedTooDeep)
  /-- Both can be read, and the form cannot be compiled: it has a pattern out of
      bounds or, strictly, a repeated name or something that a field by itself is
      objected to for. -/
  | compiling {f : Form} {values : Entries} (hf : Form.ofText form = .ok f)
      (hd : Form.data data = .ok values)
      (h : (∃ x ∈ f.fields, ∃ r ∈ x.rules, r.kind.appliesTo x.type = true ∧ r.IsOutOfBounds) ∨
        settings.strict = true ∧
          (¬(f.fields.map (·.name)).Nodup ∨ ∃ x ∈ f.fields, x.IsObjectionable))
  /-- There is a result, and a value is refused that is too deep to be written. -/
  | writing {f : Form} {values : Entries} {s : Schema} {r : Result}
      (hf : Form.ofText form = .ok f) (hd : Form.data data = .ok values)
      (hs : Schema.compile settings.strict f.fields = .ok s) (hr : s.validate values = .ok r)
      (h : ∃ e ∈ r.errors, Json.maxDepth < e.received.depth)

/-- A fault of reading is reported unless a text is nested too deeply. -/
theorem failure_faults {f : Fault} (hl : f ≠ .loneSurrogate) :
    (∃ e, (failure f >>= Validation.write) = .error e) ↔ f = .nestedTooDeep := by
  constructor
  · rintro ⟨e, he⟩
    unfold failure at he
    dsimp only at he
    split at he
    · rfl
    · exact absurd rfl hl
    iterate 4
      · cases he
  · rintro rfl
    exact ⟨_, rfl⟩

/-- A form that is read is reported on unless it cannot be compiled or a value is
    too deep. -/
theorem validate_faults_of_read {f : Form} {values : Entries} (hf : Form.ofText form = .ok f)
    (hd : Form.data data = .ok values) :
    (∃ e, validate settings form data = .error e) ↔
      (∃ e, Schema.compile settings.strict f.fields = .error e) ∨
      ∃ s r, Schema.compile settings.strict f.fields = .ok s ∧ s.validate values = .ok r ∧
        ∃ e ∈ r.errors, Json.maxDepth < e.received.depth := by
  rw [validate, hf, hd]
  cases hs : Schema.compile settings.strict f.fields with
  | error e => simp [validation, hs, bind, Except.bind]
  | ok s =>
    -- data that is read has no integer too long
    obtain ⟨r, hr⟩ : ∃ r, s.validate values = .ok r := by
      refine exists_ok_iff.2 fun h => ?_
      rw [Schema.validate_faults (Schema.ofFields_of_compile hs)] at h
      exact Schema.not_overlong (Form.legible_of_data hd).short h
    have shallow := Schema.shallow_iff hs hr fun x hx => (Form.legible_of_text hf x hx).type
    have hv : validation settings (.ok f) (.ok values) = .ok (.result r) :=
      bind_eq_ok.2 ⟨s, hs, bind_eq_ok.2 ⟨r, hr, rfl⟩⟩
    have hw : (∃ e, r.write = .error e) ↔ ∃ e ∈ r.errors, Json.maxDepth < e.received.depth := by
      simp only [Result.write, Json.writeGuarded_eq_error, exists_and_left, exists_eq', and_true,
        shallow, not_forall, not_le, exists_prop]
    rw [hv]
    refine hw.trans ⟨fun h => .inr ⟨s, r, rfl, hr, h⟩, ?_⟩
    rintro (⟨e, he⟩ | ⟨s', r', hs', hr', h⟩)
    · cases he
    · cases hs'
      obtain rfl := Except.ok.inj (hr.symm.trans hr')
      exact h

theorem validate_faults (hf : Json.Paired form) (hd : Json.Paired data) :
    (∃ e, validate settings form data = .error e) ↔ Stops settings form data := by
  cases hform : Form.ofText form with
  | error f =>
    have hl : f ≠ .loneSurrogate := by
      rintro rfl
      exact Form.ofText_paired hf hform
    rw [validate, hform]
    refine (failure_faults hl).trans ⟨fun h => .form (h ▸ hform), fun h => ?_⟩
    cases h with
    | form h => exact Except.error.inj (hform.symm.trans h)
    | _ h => cases hform.symm.trans h
  | ok f =>
    cases hdata : Form.data data with
    | error fault =>
      have hl : fault ≠ .loneSurrogate := by
        rintro rfl
        exact Form.data_paired hd hdata
      rw [validate, hform, hdata]
      refine (failure_faults hl).trans ⟨fun h => .data hform (h ▸ hdata), fun h => ?_⟩
      cases h with
      | form h => cases hform.symm.trans h
      | data _ h => exact Except.error.inj (hdata.symm.trans h)
      | compiling _ h => cases hdata.symm.trans h
      | writing _ h => cases hdata.symm.trans h
    | ok values =>
      rw [validate_faults_of_read hform hdata, Schema.compile_stops (Form.legible_of_text hform)]
      constructor
      · rintro (h | ⟨s, r, hs, hr, h⟩)
        · exact .compiling hform hdata h
        · exact .writing hform hdata hs hr h
      · intro h
        cases h with
        | form h => cases hform.symm.trans h
        | data _ h => cases hdata.symm.trans h
        | compiling hform' hdata' h =>
          cases hform.symm.trans hform'
          exact .inl h
        | writing hform' hdata' hs hr h =>
          cases hform.symm.trans hform'
          cases hdata.symm.trans hdata'
          exact .inr ⟨_, _, hs, hr, h⟩

/-- **There is a report unless a text is nested too deeply, a form that is read
    cannot be compiled, or a value is refused that is too deep to be written.**
    The report is read as an object that says whether the data is valid, what is
    wrong with it and what it is taken as; and what it says is that one of the
    texts cannot be read, that the form is refused, or the result for the data. -/
theorem reports_iff (settings : Settings) {form data : String} (hf : Json.Paired form)
    (hd : Json.Paired data) :
    ((∃ report, validate settings form data = .ok report) ↔ ¬Stops settings form data) ∧
    ∀ report, validate settings form data = .ok report → ∃ v es, Says settings form data v ∧
      Json.read report = .ok (v.toValue.asJson true) ∧ v.toValue.asJson true = .record es ∧
      Entries.keys es = ["is_valid", "errors", "validated_data"] := by
  constructor
  · rw [exists_ok_iff, validate_faults hf hd]
  · intro report h
    obtain ⟨v, hv, hw⟩ := bind_eq_ok.1 h
    have hs := says_of_validation hv
    cases v with
    | result r => exact ⟨_, _, hs, hs.read_write hw, rfl, rfl⟩
    | failed errorType message => exact ⟨_, _, hs, hs.read_write hw, rfl, rfl⟩

/-- Strictness does not matter to a sample, nor to data that is no object. -/
theorem reports_iff_sample :
    let strict : Settings := { strictCompile := .bool true }
    ∃ report es, validate strict "login" "[1, 2]" = .ok report ∧
      Json.read report = .ok (.record es) ∧
      Entries.keys es = ["is_valid", "errors", "validated_data"] ∧
      ∃ message, Says strict "login" "[1, 2]" (.failed "parse_error" message) := by
  intro strict
  have hd : Form.data "[1, 2]" = .error (.notARecord "list") := by decide +kernel
  have hf : Form.ofText "login" = .ok Sample.login := by decide +kernel
  have paired (s : String)
      (h : ((Json.read s).map fun _ => ()).mapError (·.problem) ≠ .error .loneSurrogate) :
      Json.Paired s := fun place he => h (by rw [he]; rfl)
  obtain ⟨there, said⟩ := reports_iff strict (paired "login" (by decide +kernel))
    (paired "[1, 2]" (by decide +kernel))
  have hn : ¬Stops strict "login" "[1, 2]" := by
    intro h
    cases h with
    | form h => cases hf.symm.trans h
    | data _ h => cases hd.symm.trans h
    | compiling _ h => cases hd.symm.trans h
    | writing _ h => cases hd.symm.trans h
  obtain ⟨report, hr⟩ := there.2 hn
  obtain ⟨v, es, hv, hread, hes, hk⟩ := said report hr
  exact ⟨report, es, hr, hread.trans (congrArg _ hes), hk, _, .noData hf hd rfl⟩

/-- What a form is refused for strictly, and a pattern that counts to a number
    that is too large, are not reported. -/
theorem strictness_is_not_reported :
    let twice := "[\x7b\"name\": \"a\", \"label\": \"A\", \"type\": \"text\"\x7d, "
      ++ "\x7b\"name\": \"a\", \"label\": \"A\", \"type\": \"text\"\x7d]"
    let counting := "[\x7b\"name\": \"code\", \"label\": \"Code\", \"type\": \"text\", "
      ++ "\"validationRules\": [\x7b\"kind\": \"pattern\", \"value\": \"a\x7b4294967295\x7d\", "
      ++ "\"message\": \"?\"\x7d]\x7d]"
    validate { strictCompile := .bool true } twice "\x7b\x7d" = .error (.diagnosed [⟨"a",
        .duplicateName, "Field name defined 2 times; only the last definition is used", .error⟩]) ∧
      validate {} counting "\x7b\x7d" = .error .numberTooLarge := by
  decide +kernel

end
end Report
end Formulary
