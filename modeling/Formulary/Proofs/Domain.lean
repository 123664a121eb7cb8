/-
  Values of a domain, and what is demanded of them.

  * `Domain.Has` are the values of a domain; `Domain.coerce_has` says that
    coercion gives one;
  * `Domain.coerce_error`: coercion fails over the value alone, but for an
    integer too long to be written as the text that it should be;
  * `Demand.Fits` are the demands that can be made of a domain;
    `Demand.holds_of_fits` says that they can, and `Rule.check?_fits` that the
    rules of a field make no others.
-/
import Formulary.Proofs.Fallible
import Formulary.Rule

namespace Formulary

/-- Whether a value is an integer too long to be written. -/
def Value.IsLongInt (v : Value) : Prop := ∃ n : Int, v = .int n ∧ tooLong n = true

namespace Domain

/-! ## Values of a domain -/

/-- Whether a value is one of a domain. -/
def Has : Domain → Value → Prop
  | .string, v => ∃ s, v = .text s
  | .number, v => ∃ n : Number, v = .number n ∧ n.isNaN = false
  | .date, v => ∃ d, v = .date d
  | .boolean, v => ∃ b, v = .bool b
  | .mixed, _ => True

variable {raw v : Value} {e : Fault}

theorem toText_has (h : toText raw = .ok v) : Has .string v := by
  unfold toText at h
  split at h
  · exact ⟨_, (Except.ok.inj h).symm⟩
  · split at h
    · cases h
    · exact ⟨_, (Except.ok.inj h).symm⟩
  · cases h

theorem toNumber.number_has {n : Number} (h : toNumber.number n = .ok v) : Has .number v := by
  unfold toNumber.number at h
  split at h
  · cases h
  · exact ⟨n, (Except.ok.inj h).symm, by simp_all⟩

theorem toNumber_has (h : toNumber raw = .ok v) : Has .number v := by
  unfold toNumber at h
  split at h
  · exact toNumber.number_has h
  · split at h
    · exact toNumber.number_has h
    · cases h
  · cases h
  · cases h

theorem toDate.found_has {d? : Option Date} (h : toDate.found d? = .ok v) : Has .date v := by
  cases d? with
  | some d => exact ⟨d, (Except.ok.inj h).symm⟩
  | none => cases h

theorem toDate_has (h : toDate raw = .ok v) : Has .date v := by
  unfold toDate at h
  split at h
  · exact ⟨_, (Except.ok.inj h).symm⟩
  all_goals exact toDate.found_has h

/-- **Coercion gives values of the domain.** -/
theorem coerce_has {d : Domain} (h : d.coerce raw = .ok v) : d.Has v := by
  cases d with
  | string => exact toText_has h
  | number => exact toNumber_has h
  | date => exact toDate_has h
  | boolean =>
    simp only [coerce] at h
    split at h
    · exact ⟨_, (Except.ok.inj h).symm⟩
    · cases h
  | mixed => trivial

/-- **A value of the domain is taken as it is.** -/
theorem coerce_of_has {d : Domain} (h : d.Has v) : d.coerce v = .ok v := by
  cases d with
  | string | date | boolean =>
    obtain ⟨x, rfl⟩ := h
    rfl
  | number =>
    obtain ⟨n, rfl, hn⟩ := h
    rw [coerce, toNumber, toNumber.number, if_neg (by simp [hn])]
  | mixed => rfl

/-! ## Values that are not coerced -/

theorem toText_error (h : toText raw = .error e) :
    (e = .integerTooLong ∧ raw.IsLongInt) ∨ ∃ p, e = .notCoercible p := by
  unfold toText at h
  split at h
  · cases h
  · rename_i n
    split at h
    · rename_i hn
      cases n with
      | whole n => exact .inl ⟨(Except.error.inj h).symm, n, rfl, hn⟩
      | real x => cases hn
    · cases h
  · exact .inr ⟨_, (Except.error.inj h).symm⟩

theorem toNumber.number_error {n : Number} (h : toNumber.number n = .error e) :
    ∃ p, e = .notCoercible p := by
  unfold toNumber.number at h
  split at h
  · exact ⟨_, (Except.error.inj h).symm⟩
  · cases h

theorem toNumber_error (h : toNumber raw = .error e) : ∃ p, e = .notCoercible p := by
  unfold toNumber at h
  split at h
  · exact toNumber.number_error h
  · split at h
    · exact toNumber.number_error h
    · exact ⟨_, (Except.error.inj h).symm⟩
  all_goals exact ⟨_, (Except.error.inj h).symm⟩

theorem toDate.found_error {d? : Option Date} (h : toDate.found d? = .error e) :
    ∃ p, e = .notCoercible p := by
  cases d? with
  | some d => cases h
  | none => exact ⟨_, (Except.error.inj h).symm⟩

theorem toDate_error (h : toDate raw = .error e) : ∃ p, e = .notCoercible p := by
  unfold toDate at h
  split at h
  · cases h
  all_goals exact toDate.found_error h

/-- **Coercion fails over the value alone**, unless it has to write an integer
    that is too long. -/
theorem coerce_error {d : Domain} (h : d.coerce raw = .error e) :
    (e = .integerTooLong ∧ d = .string ∧ raw.IsLongInt) ∨ ∃ p, e = .notCoercible p := by
  cases d with
  | string => exact (toText_error h).imp_left fun ⟨he, hr⟩ => ⟨he, rfl, hr⟩
  | number => exact .inr (toNumber_error h)
  | date => exact .inr (toDate_error h)
  | boolean =>
    simp only [coerce] at h
    split at h
    · cases h
    · exact .inr ⟨_, (Except.error.inj h).symm⟩
  | mixed => cases h

theorem coerce_longInt (h : raw.IsLongInt) : coerce .string raw = .error .integerTooLong := by
  obtain ⟨n, rfl, hn⟩ := h
  rw [coerce, toText, Value.hasLongInt, if_pos hn]

end Domain

/-! ## Demands -/

/-- Whether a demand can be made of the values of a domain. -/
def Demand.Fits : Demand → Domain → Prop
  | .atLeast _, d | .atMost _, d => d = .number
  | _, d => d = .string

/-- A value of a domain meets a demand that can be made of it, or does not. -/
theorem Demand.holds_of_fits {p : Demand} {d : Domain} {v : Value} (hp : p.Fits d) (hv : d.Has v) :
    ∃ b, p.holds v = .ok b := by
  cases p with
  | atLeast bound | atMost bound =>
    cases hp
    obtain ⟨n, rfl, -⟩ := hv
    exact ⟨_, rfl⟩
  | email | minLength n | maxLength n | pattern p =>
    cases hp
    obtain ⟨s, rfl⟩ := hv
    exact ⟨_, rfl⟩

/-- The domain of the types that a kind of rule takes effect on. -/
theorem RuleKind.domain_of_affects {k : RuleKind} {t : FieldType} (hk : k.isPresence = false)
    (h : k.affects t = true) :
    Domain.ofType t = if k = .min ∨ k = .max then .number else .string := by
  cases k <;> cases t <;> simp_all [isPresence, affects, FieldType.isTextEntry, Domain.ofType]

theorem Rule.fits_of_demand? {r : Rule} {p : Demand} (h : r.demand? = .ok (some p)) :
    p.Fits (if r.kind = .min ∨ r.kind = .max then .number else .string) := by
  unfold Rule.demand? at h
  split at h
  case h_1 | h_2 => cases h
  case h_3 hk =>
    cases h
    simp [hk, Demand.Fits]
  case h_4 hk | h_5 hk | h_6 hk | h_7 hk =>
    obtain ⟨_, -, rfl⟩ := Option.map_eq_some_iff.1 (Except.ok.inj h)
    simp [hk, Demand.Fits]
  case h_8 hk =>
    split at h
    · obtain ⟨o, -, ho⟩ := map_eq_ok.1 h
      obtain ⟨_, -, rfl⟩ := Option.map_eq_some_iff.1 ho
      simp [hk, Demand.Fits]
    · cases h

/-- What a check has of its rule. -/
theorem Rule.check?_some {r : Rule} {t : TypeTag} {c : Check} (h : r.check? t = .ok (some c)) :
    r.kind.isPresence = false ∧ r.kind.appliesTo t = true ∧
      ∃ p, r.demand? = .ok (some p) ∧ c = ⟨r.kind, r.message, p⟩ := by
  unfold Rule.check? at h
  split at h
  · cases h
  split at h
  · cases h
  split at h
  · split at h <;> cases h
  split at h
  · cases h
  · rename_i hk _ ha _ p hp
    exact ⟨by simpa using hk, by simpa using ha, p, hp, (Option.some.inj (Except.ok.inj h)).symm⟩
  · split at h <;> cases h

/-- A type that is known can be looked up. -/
theorem TypeTag.isKey_of_known? {tag : TypeTag} {t : FieldType} (h : tag.known? = some t) :
    tag.isKey = true := by
  cases tag with
  | declared t => rfl
  | bare v => cases v <;> simp_all [known?, isKey]

/-- A rule that takes effect becomes a check iff it demands anything. -/
theorem Rule.check?_eq_some {r : Rule} {t : TypeTag} {c : Check} (ht : t.isKey = true)
    (hk : r.kind.isPresence = false) (ha : r.kind.appliesTo t = true) :
    r.check? t = .ok (some c) ↔ ∃ d, r.demand? = .ok (some d) ∧ c = ⟨r.kind, r.message, d⟩ := by
  constructor
  · intro h
    exact (check?_some h).2.2
  · rintro ⟨d, hd, rfl⟩
    simp [check?, hk, ha, hd, ht]

/-- What a rule has that becomes no check. -/
theorem Rule.check?_none {r : Rule} {t : TypeTag} (h : r.check? t = .ok none) :
    r.kind.isPresence = true ∨ r.kind.appliesTo t = false ∨ r.demand? = .ok none := by
  unfold Rule.check? at h
  split at h
  · exact .inl ‹_›
  split at h
  · cases h
  split at h
  · exact .inr (.inl (by simp_all))
  split at h
  · cases h
  · cases h
  · exact .inr (.inr ‹_›)

theorem RuleKind.domain_of_appliesTo {k : RuleKind} {t : TypeTag} (hk : k.isPresence = false)
    (ha : k.appliesTo t = true) :
    Domain.ofTag t = if k = .min ∨ k = .max then .number else .string := by
  have hr : k ≠ .required := by rintro hr; simp [isPresence, hr] at hk
  obtain ⟨ft, ht, haf⟩ : ∃ ft, t.known? = some ft ∧ k.affects ft = true := by
    simpa [appliesTo, hr, Option.any_eq_true] using ha
  rw [Domain.ofTag, ht, Option.elim, domain_of_affects hk haf]

theorem Rule.fits_of_appliesTo {r : Rule} {t : TypeTag} {p : Demand}
    (hk : r.kind.isPresence = false) (ha : r.kind.appliesTo t = true)
    (hp : r.demand? = .ok (some p)) : p.Fits (.ofTag t) := by
  rw [RuleKind.domain_of_appliesTo hk ha]
  exact fits_of_demand? hp

/-- **Rules make demands of the domain of their field only.** -/
theorem Rule.check?_fits {r : Rule} {t : TypeTag} {c : Check} (h : r.check? t = .ok (some c)) :
    c.demand.Fits (.ofTag t) := by
  obtain ⟨hk, ha, p, hp, rfl⟩ := check?_some h
  exact fits_of_appliesTo hk ha hp

end Formulary
