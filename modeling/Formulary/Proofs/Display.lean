/-
  What a control shows of a value, beside what the value is validated as.

  A control and a validator each turn a value into a text, or into true or
  false, by rules of their own.

  * `toggle_shows_iff`: a toggle shows what its value counts as, which is what
    it is validated as, unless the value is a word for false;
  * `selection_agrees_iff`: of a value that is accepted, the choices that show
    as selected are those that stand for what it is accepted as, if all choices
    can be written.
-/
import Formulary.Proofs.Control
import Formulary.Proofs.Verdict

namespace Formulary

/-! ## Numbers that are zero -/

theorem Binary64.units_eq_zero {s : Bool} {e : Fin 2047} {f : Fin hiddenBit} :
    units s e f = 0 ↔ magnitude e f = 0 := by
  unfold units
  cases s <;> simp

/-- A double is zero iff it is equal to the integer, of either sign. -/
theorem Binary64.isZero_iff {x : Binary64} : x.isZero = true ↔ x.toInt? = some 0 := by
  cases x with
  | infinite s => simp [isZero, toInt?]
  | nan => simp [isZero, toInt?]
  | finite s e f =>
    rw [isZero, beq_iff_eq, ← units_eq_zero (s := s), toInt?]
    generalize units s e f = u
    generalize (unitsPerOne : Int) = one
    constructor
    · rintro rfl
      simp
    · intro h
      by_cases hm : u % one = 0
      · rw [if_pos hm] at h
        rw [← Int.mul_ediv_add_emod u one, hm, Option.some.inj h, Int.mul_zero, Int.add_zero]
      · rw [if_neg hm] at h
        cases h

theorem Number.isZero_iff {n : Number} : n.isZero = true ↔ n.toInt? = some 0 := by
  cases n with
  | whole n => simp [isZero, toInt?]
  | real x => exact Binary64.isZero_iff

/-! ## Toggles -/

/-- Whether a value is a word for false. -/
def Value.IsWordForFalse (v : Value) : Prop := ∃ s, v = .text s ∧ Domain.truth? s = some false

/-- A value that is taken as true or false counts as what it is taken as, unless
    it is a word for false: any word counts as something. -/
theorem Value.isFalsy_of_toBool? {v : Value} {b : Bool} (h : Domain.toBool? v = some b) :
    (v.IsWordForFalse → v.isFalsy = false ∧ b = false) ∧
      (¬v.IsWordForFalse → v.isFalsy = !b) := by
  cases v with
  | bool c =>
    obtain rfl : c = b := Option.some.inj h
    exact ⟨fun ⟨_, hs, _⟩ => (by cases hs), fun _ => rfl⟩
  | number n =>
    refine ⟨fun ⟨_, hs, _⟩ => (by cases hs), fun _ => ?_⟩
    rw [Domain.toBool?] at h
    rw [isFalsy, Bool.eq_iff_iff, Number.isZero_iff]
    split at h
    · rename_i h₁
      obtain rfl := Option.some.inj h
      simp [h₁]
    · split at h
      · rename_i h₀
        obtain rfl := Option.some.inj h
        simp [h₀]
      · cases h
  | text s =>
    have ht : Domain.truth? s = some b := h
    have hs : (Value.text s).isFalsy = false := by
      rw [isFalsy, Bool.eq_false_iff]
      intro he
      rw [String.isEmpty_iff.1 he] at ht
      cases ht
    constructor
    · rintro ⟨s', he, hf⟩
      obtain rfl := Value.text.inj he
      exact ⟨hs, Option.some.inj (ht.symm.trans hf)⟩
    · intro hn
      cases b with
      | true => exact hs
      | false => exact absurd ⟨s, rfl, ht⟩ hn
  | null | date | list | record => cases h

/-- **A toggle shows what will be validated, unless it holds a word for false.**
    Of a value that is taken as true or false, the toggle shows this very truth
    value, and passes it on if the value is entered.  Of a word for false it
    passes on the same, but shows true. -/
theorem toggle_shows_iff {f : Field} (ht : f.type.known? = some .checkbox) {v w : Value}
    (hv : (Domain.ofTag f.type).coerce v = .ok w) (settings : Settings) (error : Option String) :
    ∃ c, f.render settings v error = .ok (some c) ∧ c.kind = .toggle ∧ c.emitted v = .ok w ∧
      (c.value = w ↔ ¬v.IsWordForFalse) ∧
      (v.IsWordForFalse → c.value = .bool true ∧ w = .bool false) := by
  have hdomain : Domain.ofTag f.type = .boolean := by rw [Domain.ofTag, ht]; rfl
  rw [hdomain] at hv
  obtain ⟨b, hb, rfl⟩ : ∃ b, Domain.toBool? v = some b ∧ .bool b = w := by
    rw [Domain.coerce] at hv
    split at hv
    · exact ⟨_, ‹_›, Except.ok.inj hv⟩
    · cases hv
  obtain ⟨word, other⟩ := Value.isFalsy_of_toBool? hb
  have shown : ∃ c, f.control .checkbox settings v error = .ok c ∧ c.kind = .toggle ∧
      c.value = .bool !v.isFalsy := ⟨_, rfl, rfl, rfl⟩
  obtain ⟨c, hc, hkind, hvalue⟩ := shown
  refine ⟨c, by rw [Field.render_known ht, hc]; rfl, hkind, ?emitted, ?shows, ?word⟩
  case emitted => rw [Control.emitted, if_pos hkind, hv]
  case shows =>
    rw [hvalue]
    constructor
    · intro he hw
      obtain ⟨hf, rfl⟩ := word hw
      rw [hf] at he
      cases he
    · intro hn
      rw [other hn, Bool.not_not]
  case word =>
    intro hw
    obtain ⟨hf, rfl⟩ := word hw
    exact ⟨by rw [hvalue, hf]; rfl, rfl⟩

/-- A zero of the other sign is validated as false and shows so. -/
theorem toggle_shows_iff_negative_zero :
    let f : Field := { name := "ok", label := "OK", type := .declared .checkbox }
    let v : Value := .real (.zero true)
    (Domain.ofTag f.type).coerce v = .ok (.bool false) ∧
      ∃ c, f.render {} v none = .ok (some c) ∧ c.value = .bool false := by
  intro f v
  have hv : (Domain.ofTag f.type).coerce v = .ok (.bool false) := by decide +kernel
  obtain ⟨c, hc, -, -, hshows, -⟩ := toggle_shows_iff (f := f) rfl hv {} none
  refine ⟨hv, c, hc, hshows.2 ?_⟩
  rintro ⟨s, hs, -⟩
  simp [v] at hs

/-- A word for false is validated as false and shows as true. -/
theorem false_word_shows_true :
    let f : Field := { name := "ok", label := "OK", type := .declared .checkbox }
    f.type.known? = some .checkbox ∧
      (Domain.ofTag f.type).coerce (.text "false") = .ok (.bool false) ∧
      ∀ settings error, ∃ c, f.render settings (.text "false") error = .ok (some c) ∧
        c.value = .bool true :=
  ⟨rfl, rfl, fun _ _ => ⟨_, rfl, rfl⟩⟩

/-! ## Choices -/

/-- A value, an absent one as the empty text. -/
def Value.orEmpty : Value → Value
  | .null => .text ""
  | v => v

theorem Value.selection_of_toText {v w : Value} (h : Domain.toText v = .ok w) :
    ∃ s, v.selection = .ok s ∧ w = .text s := by
  cases v with
  | text s => exact ⟨s, rfl, (Except.ok.inj h).symm⟩
  | number n =>
    rw [Domain.toText] at h
    split at h
    · cases h
    · rename_i hn
      exact ⟨_, if_neg hn, (Except.ok.inj h).symm⟩
  | null | bool | date | list | record => cases h

namespace Field
variable {f : Field} {t : FieldType} {validator : Validator} {raw w : Value}

theorem domain_of_isChoice (ht : f.type.known? = some t) (hc : t.isChoice = true) :
    Domain.ofTag f.type = .string := by
  rw [Domain.ofTag, ht]
  cases t <;> first | rfl | cases hc

/-- What a value selects among choices is the text that it is accepted as. -/
theorem selection_of_accepted (ht : f.type.known? = some t) (hc : t.isChoice = true)
    (hf : f.compile = .ok validator) (h : validator.validate raw = .ok (.accepted w)) :
    ∃ s, raw.selection = .ok s ∧ w.orEmpty = .text s := by
  rcases (validate_accepted hf).1 h with ⟨hb, rfl, -⟩ | ⟨-, hw, -⟩
  · have : raw = .null ∨ raw = .text "" := by simpa [Value.isBlank] using hb
    rcases this with rfl | rfl
    · exact ⟨"", rfl, rfl⟩
    · exact ⟨"", rfl, rfl⟩
  · rw [domain_of_isChoice ht hc] at hw
    obtain ⟨s, hs, rfl⟩ := Value.selection_of_toText hw
    exact ⟨s, hs, rfl⟩

theorem choices_of_control {settings : Settings} {error : Option String} {c : Control}
    (hc : t.isChoice = true) (h : f.control t settings raw error = .ok c) :
    f.showChoices raw = .ok c.choices := by
  have hp := control_presents h
  have hk : c.kind.hasChoices = true := by
    rw [hp.kind]
    cases t <;> first | rfl | cases hc
  simpa only [hk, if_true] using hp.choices

end Field

/-- **Selected choices agree with the validated value.**  Of a value that a field
    to choose from accepts, the field shows unless a choice is an integer too
    long to be written.  Then it shows its choices in order, repeats included,
    each bound to the text of what it stands for, and those are selected that
    are bound to what the value is accepted as, nothing being the empty text. -/
theorem selection_agrees_iff {f : Field} {t : FieldType} (ht : f.type.known? = some t)
    (hc : t.isChoice = true) {validator : Validator} (hf : f.compile = .ok validator)
    {raw w : Value} (h : validator.validate raw = .ok (.accepted w)) (settings : Settings)
    (error : Option String) :
    ((∃ c, f.render settings raw error = .ok (some c)) ↔
      ∀ x ∈ f.choices.getD [], x.value.toValue.hasLongInt = false) ∧
    ∀ c, f.render settings raw error = .ok (some c) →
      List.Forall₂ (fun x shown => shown.label = x.label ∧
          shown.value = x.value.toValue.display ∧
          (shown.selected = true ↔ .text shown.value = w.orEmpty))
        (f.choices.getD []) c.choices := by
  obtain ⟨s, hs, hw⟩ := Field.selection_of_accepted ht hc hf h
  rw [Field.render_known ht, hw]
  constructor
  · have hshort : raw.hasLongInt = false := by
      rw [Bool.eq_false_iff, Ne, ← Value.selection_faults, hs]
      simp
    have hcontrol : (∃ c, (f.control t settings raw error).map some = .ok (some c)) ↔
        ∃ c, f.control t settings raw error = .ok c := by simp [map_eq_ok]
    rw [hcontrol, exists_ok_iff, Field.control_faults]
    simp [hc, Field.HasLongChoice, hshort]
  · intro c h
    obtain ⟨c', hcontrol, hsome⟩ := map_eq_ok.1 h
    cases hsome
    have hchoices := Field.choices_of_control hc hcontrol
    rw [Field.showChoices, hs] at hchoices
    refine (mapM_eq_ok.1 hchoices).imp fun x shown hx => ?_
    obtain ⟨-, rfl⟩ := Choice.shown_eq_ok.1 hx
    exact ⟨rfl, rfl, by simp⟩

/-- An integer is accepted as its digits, and selects every choice that stands for
    them, as an integer or as a text. -/
theorem selection_agrees_iff_repeated :
    let f : Field :=
      { name := "n", label := "Count", type := .declared .radio,
        choices := some [⟨"Ten", .number (.whole 10)⟩, ⟨"None", .text ""⟩, ⟨"X", .text "10"⟩] }
    ∃ validator, f.compile = .ok validator ∧
      validator.validate (.int 10) = .ok (.accepted (.text "10")) ∧
      ∃ c, f.render {} (.int 10) none = .ok (some c) ∧
        c.choices.map (·.selected) = [true, false, true] := by
  intro f
  have hf : f.compile = .ok _ := rfl
  have h : ∀ validator, f.compile = .ok validator →
      validator.validate (.int 10) = .ok (.accepted (.text "10")) := by
    intro validator hv
    cases hv
    decide +kernel
  obtain ⟨shows, agrees⟩ := selection_agrees_iff rfl rfl hf (h _ hf) {} none
  obtain ⟨c, hc⟩ := shows.2 (by decide +kernel)
  have selected : c.choices.map (·.selected) =
      (f.choices.getD []).map fun x => x.value.toValue.display == "10" := by
    refine map_eq_of_forall₂ ((agrees c hc).imp fun x shown hx => ?_)
    obtain ⟨-, hvalue, hselected⟩ := hx
    rw [Bool.eq_iff_iff, hselected, ← hvalue]
    simp [Value.orEmpty]
  exact ⟨_, hf, h _ hf, c, hc, selected.trans (by decide +kernel)⟩

/-- A choice of 4301 digits keeps a field from being shown, with a value for
    another choice that is accepted. -/
theorem long_choice_hides_control :
    let f : Field :=
      { name := "size", label := "Size", type := .declared .select,
        choices := some [⟨"A", .text "a"⟩, ⟨"Big", .number (.whole (Nat.pow 10 4300))⟩] }
    ∃ validator, f.compile = .ok validator ∧
      validator.validate (.text "a") = .ok (.accepted (.text "a")) ∧
      ∀ settings error, f.render settings (.text "a") error = .error .integerTooLong := by
  intro f
  refine ⟨_, rfl, rfl, fun settings error => ?_⟩
  have hlong : f.Unshowable (.text "a") :=
    ⟨rfl, .inr ⟨_, List.mem_cons_of_mem _ List.mem_cons_self, by decide +kernel⟩⟩
  obtain ⟨e, he⟩ : ∃ e, f.render settings (.text "a") error = .error e :=
    (Field.render_faults rfl).2 hlong
  rw [he, Field.render_only rfl e he]

end Formulary
