/-
  Number fields with bounds.

  * `Rule.Allows` is what a rule asks of a number: that it is within a bound;
  * `Field.accepts_number_iff`: a number field takes the numbers that all of its
    rules allow, each as it is;
  * `bounds_include_iff`: one argument as both bounds leaves just what it stands
    for, and has all numbers on one side or the other, unless that is no number;
  * `integers_are_exact`: integers are compared with integers, in digits or not,
    and lose nothing.
-/
import Formulary.Proofs.Blank
import Formulary.Proofs.Number.Order
import Formulary.Proofs.Number.Spelling
import Formulary.Proofs.RuleList

namespace Formulary

/-! ## Numbers that rules allow -/

/-- Whether a number is within the bound that a rule sets, if it sets any. -/
def Rule.Allows (r : Rule) (n : Number) : Prop :=
  ∀ b, r.argument.bound? = some b →
    (r.kind = .min → b.le n = true) ∧ (r.kind = .max → n.le b = true)

namespace Rule
variable {r : Rule} {t : TypeTag} {n b : Number}

/-- On a field for numbers a rule asks for a bound and no more. -/
theorem isBroken_number (ht : t.known? = some .number) :
    r.isBroken t (.number n) = false ↔ r.Allows n := by
  unfold isBroken Allows
  cases hk : r.kind with
  | required | optional => simp [RuleKind.isPresence]
  | email | minLength | maxLength | pattern =>
    simp [RuleKind.appliesTo, RuleKind.affects, FieldType.isTextEntry, ht]
  | min | max =>
    cases hb : r.argument.bound? <;>
      simp [RuleKind.isPresence, RuleKind.appliesTo, RuleKind.affects, demand?, Demand.isBroken,
        Demand.holds, Demand.ask, Value.comparable?, ht, hk, hb]

/-- A rule that becomes no check allows every number. -/
theorem allows_of_idle (ht : t.known? = some .number) (h : r.check? t = .ok none) :
    r.Allows n := by
  rw [← isBroken_number ht, isBroken_eq h]
  rfl

/-- A bound is within itself, if it is a number. -/
theorem allows_own_bound (hb : r.argument.bound? = some b) (hn : b.isNaN = false) :
    r.Allows b := by
  have hself : b.le b = true := Number.le_self.2 hn
  intro b' hb'
  obtain rfl : b = b' := Option.some.inj (hb.symm.trans hb')
  exact ⟨fun _ => hself, fun _ => hself⟩

/-- A bound that is usable stands for something. -/
theorem isUsable_bound (hk : r.kind = .min ∨ r.kind = .max) :
    r.isUsable = .ok true ↔ ∃ b, r.argument.bound? = some b := by
  rcases hk with hk | hk <;> cases hb : r.argument.bound? <;>
    simp [isUsable, RuleKind.isPresence, demand?, hk, hb, Except.map]

/-- The check that a bound becomes on a field for numbers. -/
theorem check?_bound (ht : t.known? = some .number) (hk : r.kind = .min ∨ r.kind = .max)
    (hb : r.argument.bound? = some b) :
    r.check? t = .ok (some ⟨r.kind, r.message, if r.kind = .min then .atLeast b else .atMost b⟩) := by
  rcases hk with hk | hk
  all_goals
    rw [check?_eq_some (TypeTag.isKey_of_known? ht)
      (by rw [hk]; rfl) (by simp [RuleKind.appliesTo, RuleKind.affects, ht, hk])]
    simp [demand?, hk, hb]

end Rule

/-! ## Numbers that fields take -/

theorem Domain.coerce_number_eq_ok {n : Number} {w : Value} :
    coerce .number (.number n) = .ok w ↔ n.isNaN = false ∧ w = .number n := by
  rw [coerce, toNumber, toNumber.number]
  cases n.isNaN <;> simp [eq_comm]

namespace Field
variable {f : Field} {v : Validator} {n : Number} {raw w : Value}
  (ht : f.type.known? = some .number) (hf : f.compile = .ok v)
include ht

theorem domain_number : Domain.ofTag f.type = .number := by
  rw [Domain.ofTag, ht]
  rfl

include hf

/-- A number field never faults on a value. -/
theorem exists_outcome_number (raw : Value) : ∃ o, v.validate raw = .ok o := by
  rw [exists_ok_iff, validate_faults hf, domain_number ht]
  rintro ⟨hd, -⟩
  cases hd

/-- What a number field takes is nothing, or a number that its rules allow. -/
theorem allows_of_accepted (h : v.validate raw = .ok (.accepted w)) :
    raw.isBlank = true ∨ ∃ n, w = .number n ∧ n.isNaN = false ∧ ∀ r ∈ f.rules, r.Allows n := by
  rcases (validate_accepted hf).1 h with ⟨hb, -⟩ | ⟨-, hc, ho⟩
  · exact .inl hb
  · obtain ⟨n, rfl, hn⟩ : Domain.Has .number w := domain_number ht ▸ Domain.coerce_has hc
    obtain ⟨-, hr⟩ := objection?_eq_none.1 ho
    exact .inr ⟨n, rfl, hn, fun r hm => (Rule.isBroken_number ht).1 (hr r hm)⟩

/-- **A number field takes the numbers that all of its rules allow**, each as it
    is. -/
theorem accepts_number_iff : v.validate (.number n) = .ok (.accepted w) ↔
    w = .number n ∧ n.isNaN = false ∧ ∀ r ∈ f.rules, r.Allows n := by
  have hd := domain_number ht
  have hb : (Value.number n).isBlank = false := by simp [Value.isBlank]
  rw [validate_accepted hf, hd, Domain.coerce_number_eq_ok, hb]
  constructor
  · rintro (⟨h, -⟩ | ⟨-, ⟨hn, rfl⟩, ho⟩)
    · cases h
    · exact ⟨rfl, hn, fun r hr => (Rule.isBroken_number ht).1 ((objection?_eq_none.1 ho).2 r hr)⟩
  · rintro ⟨rfl, hn, hr⟩
    refine .inr ⟨rfl, ⟨hn, rfl⟩, objection?_eq_none.2 ⟨?_, ?_⟩⟩
    · rintro ⟨hbool, -⟩
      rw [hd] at hbool
      cases hbool
    · exact fun r hm => (Rule.isBroken_number ht).2 (hr r hm)

end Field

/-! ## One argument as both bounds -/

/-- **One argument as both bounds leaves just what it stands for**, and each number
    that is taken at all is within the one bound or the other, iff the argument
    stands for a number.  If it is usable but stands for none, the field takes
    nothing that is given. -/
theorem bounds_include_iff {f : Field} {least most : Rule} (ht : f.type.known? = some .number)
    (hl : least ∈ f.rules ∧ least.kind = .min) (hm : most ∈ f.rules ∧ most.kind = .max)
    (ha : most.argument = least.argument) (hu : least.isUsable = .ok true)
    (ho : ∀ r ∈ f.rules, r = least ∨ r = most ∨ r.check? f.type = .ok none) :
    ∃ b v low high, least.argument.bound? = some b ∧ f.compile = .ok v ∧
      least.check? f.type = .ok (some low) ∧ most.check? f.type = .ok (some high) ∧
      (v.validate (.number b) = .ok (.accepted (.number b)) ↔ b.isNaN = false) ∧
      ((∀ raw w, Domain.number.coerce raw = .ok w →
        low.passes w = .ok true ∨ high.passes w = .ok true) ↔ b.isNaN = false) ∧
      (b.isNaN = true → ∀ raw w, v.validate raw = .ok (.accepted w) → raw.isBlank = true) := by
  obtain ⟨b, hb⟩ := (Rule.isUsable_bound (.inl hl.2)).1 hu
  have low := Rule.check?_bound ht (.inl hl.2) hb
  have high := Rule.check?_bound ht (.inr hm.2) (ha ▸ hb)
  obtain ⟨v, hf⟩ : ∃ v, f.compile = .ok v := by
    refine Field.exists_compile.2 ⟨TypeTag.isKey_of_known? ht, fun r hr => ?_⟩
    rcases ho r hr with rfl | rfl | h
    · exact ⟨_, low⟩
    · exact ⟨_, high⟩
    · exact ⟨_, h⟩
  rw [hl.2, if_pos rfl] at low
  rw [hm.2, if_neg (by decide)] at high
  refine ⟨b, v, _, _, hb, hf, low, high, ?included, ?divided, ?nothing⟩
  case included =>
    rw [Field.accepts_number_iff ht hf]
    constructor
    · exact fun h => h.2.1
    · intro hn
      refine ⟨rfl, hn, fun r hr => ?_⟩
      rcases ho r hr with rfl | rfl | h
      · exact Rule.allows_own_bound hb hn
      · exact Rule.allows_own_bound (ha ▸ hb) hn
      · exact Rule.allows_of_idle ht h
  case divided =>
    constructor
    · intro h
      rcases h (.int 0) (.int 0) rfl with h | h
      · exact (Number.isNaN_of_le (Except.ok.inj h)).1
      · exact (Number.isNaN_of_le (Except.ok.inj h)).2
    · intro hn raw w hw
      obtain ⟨n, rfl, hnan⟩ := Domain.coerce_has hw
      rcases Number.le_total hn hnan with h | h
      · exact .inl (congrArg Except.ok h)
      · exact .inr (congrArg Except.ok h)
  case nothing =>
    intro hnan raw w h
    rcases Field.allows_of_accepted ht hf h with hblank | ⟨n, -, -, hr⟩
    · exact hblank
    · have hle : b.le n = true := (hr least hl.1 b hb).1 hl.2
      rw [(Number.isNaN_of_le hle).1] at hnan
      cases hnan

/-- Infinity is a number: as both bounds it leaves itself, and no number is beyond
    it. -/
theorem bounds_include_iff_infinite :
    let least : Rule := ⟨.min, .text "inf", "Too small"⟩
    let most : Rule := ⟨.max, .text "inf", "Too large"⟩
    let f : Field :=
      { name := "n", label := "Amount", type := .declared .number,
        rules := [⟨.optional, .null, ""⟩, most, least] }
    ∃ v low high, f.compile = .ok v ∧ least.check? f.type = .ok (some low) ∧
      most.check? f.type = .ok (some high) ∧
      v.validate (.real (.infinite false)) = .ok (.accepted (.real (.infinite false))) ∧
      ∀ raw w, Domain.number.coerce raw = .ok w →
        low.passes w = .ok true ∨ high.passes w = .ok true := by
  intro least most f
  obtain ⟨b, v, low, high, hb, hf, hlow, hhigh, included, divided, -⟩ :=
    @bounds_include_iff f least most rfl ⟨by simp [f], rfl⟩ ⟨by simp [f], rfl⟩ rfl rfl
      (by simpa [f] using .inr (.inr rfl))
  have hinf : least.argument.bound? = some (.real (.infinite false)) := by decide +kernel
  obtain rfl : b = .real (.infinite false) := Option.some.inj (hb.symm.trans hinf)
  exact ⟨v, low, high, hf, hlow, hhigh, included.2 rfl, divided.2 rfl⟩

/-- The word for no number is usable as a bound, and as both bounds it leaves
    nothing: it is turned down itself, and five is within neither. -/
theorem no_number_bounds_nothing :
    let least : Rule := ⟨.min, .text "nan", "Too small"⟩
    let most : Rule := ⟨.max, .text "nan", "Too large"⟩
    let f : Field :=
      { name := "n", label := "Amount", type := .declared .number, rules := [least, most] }
    least.isUsable = .ok true ∧ least.argument.bound? = some (.real .nan) ∧
      ∃ v low high, f.compile = .ok v ∧ v.checks = [low, high] ∧
        v.validate (.real .nan) =
          .ok (.rejected ⟨"n", "type", "Amount must be a valid number", .real .nan⟩) ∧
        low.passes (.int 5) = .ok false ∧ high.passes (.int 5) = .ok false := by
  refine ⟨rfl, by decide +kernel, _, _, _, rfl, rfl, rfl, rfl, rfl⟩

/-! ## Integers -/

/-- The integer that the argument of a rule stands for as a bound, in digits or
    as a double too. -/
def Rule.intBound? (r : Rule) : Option Int := r.argument.bound?.bind Number.toInt?

/-- Whether a rule is a bound that stands for an integer. -/
def Rule.IsIntegerBound (r : Rule) : Prop :=
  (r.kind = .min ∨ r.kind = .max) ∧ ∃ k, r.intBound? = some k

/-- Whether an integer is within the bound that a rule sets, if that is an
    integer. -/
def Rule.AllowsInt (r : Rule) (n : Int) : Prop :=
  ∀ k, r.intBound? = some k → (r.kind = .min → k ≤ n) ∧ (r.kind = .max → n ≤ k)

theorem Rule.intBound?_eq_some {r : Rule} {k : Int} :
    r.intBound? = some k ↔ ∃ b, r.argument.bound? = some b ∧ b.toInt? = some k :=
  Option.bind_eq_some_iff

/-- Where a rule that takes effect is a bound by an integer, integers are compared
    as such. -/
theorem Rule.allows_whole_iff {r : Rule} {t : TypeTag} {n : Int} (ht : t.known? = some .number)
    (hr : r.IsIntegerBound ∨ r.check? t = .ok none) : r.Allows (.whole n) ↔ r.AllowsInt n := by
  have hn : (Number.whole n).toInt? = some n := rfl
  constructor
  · intro h k hk
    obtain ⟨b, hb, hbk⟩ := intBound?_eq_some.1 hk
    obtain ⟨low, high⟩ := h b hb
    exact ⟨fun hm => (Number.le_iff_of_toInt? hbk hn).1 (low hm),
      fun hm => (Number.le_iff_of_toInt? hn hbk).1 (high hm)⟩
  · intro h b hb
    rcases hr with ⟨-, k, hk⟩ | hr
    · obtain ⟨b', hb', hbk⟩ := intBound?_eq_some.1 hk
      obtain rfl : b' = b := Option.some.inj (hb'.symm.trans hb)
      obtain ⟨low, high⟩ := h k hk
      exact ⟨fun hm => (Number.le_iff_of_toInt? hbk hn).2 (low hm),
        fun hm => (Number.le_iff_of_toInt? hn hbk).2 (high hm)⟩
    · exact allows_of_idle ht hr b hb

/-- A text that spells an integer is something. -/
theorem Spells.isBlank {s : String} {n : Int} (h : Spells s n) :
    (Value.text s).isBlank = false := by
  have hne : s ≠ "" := by
    rintro rfl
    exact Reading.writeInt_ne_nil n h.trimBy.symm
  simp [Value.isBlank, hne]

/-- **Integers are exact, in digits or not.**  Where all rules of a number field
    that take effect are bounds by integers, an integer and any text that spells
    it in fewer than 4300 digits have the same outcome, but for the value that an
    error hands back.  They are taken iff the integer is within all bounds, in
    the order of integers, and then both as the integer itself. -/
theorem integers_are_exact {f : Field} (ht : f.type.known? = some .number)
    (hr : ∀ r ∈ f.rules, r.IsIntegerBound ∨ r.check? f.type = .ok none) :
    ∃ v, f.compile = .ok v ∧ ∀ (n : Int) (s : String),
      (Nat.toDigits 10 n.natAbs).length < maxIntegerDigits → Spells s n →
      ∃ o, v.validate (.int n) = .ok o ∧ v.validate (.text s) = .ok (o.receiving (.text s)) ∧
        (o.isValid = true ↔ ∀ r ∈ f.rules, r.AllowsInt n) ∧
        (o.isValid = true → o = .accepted (.int n)) := by
  obtain ⟨v, hf⟩ : ∃ v, f.compile = .ok v := by
    refine Field.exists_compile.2 ⟨TypeTag.isKey_of_known? ht, fun r hm => ?_⟩
    rcases hr r hm with ⟨hk, k, hi⟩ | h
    · obtain ⟨b, hb, -⟩ := Rule.intBound?_eq_some.1 hi
      exact ⟨_, Rule.check?_bound ht hk hb⟩
    · exact ⟨_, h⟩
  refine ⟨v, hf, fun n s hn hs => ?_⟩
  obtain ⟨o, ho⟩ := Field.exists_outcome_number ht hf (.int n)
  refine ⟨o, ho, ?spelled, ?within⟩
  case spelled =>
    have hd : v.domain = .number := by
      obtain ⟨cs, -, -, rfl⟩ := Field.compile_eq_ok hf
      exact Field.domain_number ht
    have hb : (Value.text s).isBlank = (Value.int n).isBlank := by
      rw [hs.isBlank]
      simp [Value.isBlank]
    have hc : v.domain.coerce (.text s) = v.domain.coerce (.int n) := by
      rw [hd, Domain.coerce_of_spells hs hn]
      rfl
    rw [Validator.validate_congr hb fun _ => hc, ho]
    rfl
  case within =>
    have taken : ∀ w, o = .accepted w ↔ w = .int n ∧ ∀ r ∈ f.rules, r.AllowsInt n := by
      intro w
      have h := Field.accepts_number_iff (n := .whole n) (w := w) ht hf
      rw [ho, Except.ok.injEq] at h
      refine h.trans (and_congr_right fun _ => (and_iff_right rfl).trans ?_)
      exact forall₂_congr fun r hm => Rule.allows_whole_iff ht (hr r hm)
    cases o with
    | accepted w =>
      obtain ⟨rfl, within⟩ := (taken w).1 rfl
      exact ⟨iff_of_true rfl within, fun _ => rfl⟩
    | rejected e =>
      have beyond : ¬∀ r ∈ f.rules, r.AllowsInt n := fun h => by
        have := (taken (.int n)).2 ⟨rfl, h⟩
        cases this
      exact ⟨iff_of_false Bool.false_ne_true beyond, fun h => absurd h Bool.false_ne_true⟩

/-- The least integer that is no double, in digits and from both sides. -/
theorem integers_are_exact_beyond_doubles :
    let least : Rule := ⟨.min, .text "9007199254740993", "Too small"⟩
    let most : Rule := ⟨.max, .int 9007199254740993, "Too large"⟩
    let f : Field :=
      { name := "n", label := "Amount", type := .declared .number,
        rules := [⟨.required, .null, "How much?"⟩, least, most] }
    ∃ v, f.compile = .ok v ∧
      v.validate (.text " 9007199254740993") = .ok (.accepted (.int 9007199254740993)) ∧
      (∃ e, v.validate (.int 9007199254740992) = .ok (.rejected e)) ∧
      ∃ e, v.validate (.text "9007199254740994 ") = .ok (.rejected e) := by
  intro least most f
  have hleast : least.intBound? = some 9007199254740993 := by decide +kernel
  have hmost : most.intBound? = some 9007199254740993 := rfl
  have bounds : ∀ r ∈ f.rules, r.IsIntegerBound ∨ r.check? f.type = .ok none := by
    intro r hr
    simp only [f, List.mem_cons, List.not_mem_nil, or_false] at hr
    rcases hr with rfl | rfl | rfl
    · exact .inr rfl
    · exact .inl ⟨.inl rfl, _, hleast⟩
    · exact .inl ⟨.inr rfl, _, hmost⟩
  have beyond : ∀ n : Int, n ≠ 9007199254740993 → ¬∀ r ∈ f.rules, r.AllowsInt n := by
    intro n hn h
    have low := (h least (by simp [f]) _ hleast).1 rfl
    have high := (h most (by simp [f]) _ hmost).2 rfl
    exact hn (Int.le_antisymm high low)
  obtain ⟨v, hf, same⟩ := integers_are_exact rfl bounds
  refine ⟨v, hf, ?_, ?_, ?_⟩
  · obtain ⟨o, -, hs, valid, taken⟩ := same 9007199254740993 " 9007199254740993"
      (by decide +kernel) ⟨[' '], [], by decide +kernel, List.forall_mem_singleton.2 rfl, by simp⟩
    have within : ∀ r ∈ f.rules, r.AllowsInt 9007199254740993 := by
      intro r hr k hk
      simp only [f, List.mem_cons, List.not_mem_nil, or_false] at hr
      rcases hr with rfl | rfl | rfl
      · cases hk
      · cases hleast.symm.trans hk
        exact ⟨fun _ => Int.le_refl _, fun _ => Int.le_refl _⟩
      · cases hmost.symm.trans hk
        exact ⟨fun _ => Int.le_refl _, fun _ => Int.le_refl _⟩
    rw [hs, taken (valid.2 within)]
    rfl
  · obtain ⟨o, ho, -, valid, -⟩ := same 9007199254740992 "9007199254740992"
      (by decide +kernel) ⟨[], [], by decide +kernel, by simp, by simp⟩
    cases o with
    | accepted w => exact absurd (valid.1 rfl) (beyond _ (by decide))
    | rejected e => exact ⟨e, ho⟩
  · obtain ⟨o, -, hs, valid, -⟩ := same 9007199254740994 "9007199254740994 "
      (by decide +kernel) ⟨[], [' '], by decide +kernel, by simp, List.forall_mem_singleton.2 rfl⟩
    cases o with
    | accepted w => exact absurd (valid.1 rfl) (beyond _ (by decide))
    | rejected e => exact ⟨_, hs⟩

end Formulary
