/-
  Lists of rules: which rules of a field count, and what their order counts for.

  * `Field.isInert` tells whether the rule at a place has no effect, and
    `Field.without` leaves rules out by their places;
  * `inert_rules_erase`: without any of its inert rules a field has the very
    same validator, and without all of them each rule that is left counts;
  * `Field.accepted_of_subset`: what a field takes with more rules, it takes
    with fewer, and as the same;
  * `rules_only_restrict`: so one more rule only restricts, and the order of the
    rules decides on nothing but the message.
-/
import Formulary.Proofs.Verdict

namespace Formulary

/-! ## The first item of a kind -/

section
variable {α : Type} {l : List α} {p : α → Bool}

/-- Where the first item of a kind is kept, it stays the first. -/
theorem find?_filter_of_kept {keep : α → Bool} (h : ∀ a, l.find? p = some a → keep a = true) :
    (l.filter keep).find? p = l.find? p := by
  induction l with
  | nil => rfl
  | cons a l ih =>
    cases hp : p a with
    | true =>
      have hk : keep a = true := h a (List.find?_cons_of_pos hp)
      rw [List.filter_cons_of_pos hk, List.find?_cons_of_pos hp, List.find?_cons_of_pos hp]
    | false =>
      have hn : ¬p a = true := by simp [hp]
      have ih := ih fun b hb => h b ((List.find?_cons_of_neg hn).trans hb)
      rw [List.find?_cons_of_neg hn, List.filter_cons]
      split
      · rwa [List.find?_cons_of_neg hn]
      · exact ih

/-- The first item of a kind is at its place, and none before it is of the kind. -/
theorem find?_zipIdx {a : α} {i : Nat} (h : l.zipIdx.find? (fun q => p q.1) = some (a, i)) :
    l[i]? = some a ∧ p a = true ∧ ∀ b ∈ l.take i, p b = false := by
  obtain ⟨hp, j, hj, hq, before⟩ := List.find?_eq_some_iff_getElem.1 h
  rw [List.length_zipIdx] at hj
  simp only [List.getElem_zipIdx, Nat.zero_add, Prod.mk.injEq] at hq before
  obtain ⟨rfl, rfl⟩ := hq
  refine ⟨List.getElem?_eq_getElem hj, hp, fun b hb => ?_⟩
  obtain ⟨k, hk, rfl⟩ := List.mem_take_iff_getElem.1 hb
  simpa using before k (Nat.lt_of_lt_of_le hk (Nat.min_le_left _ _))

end

/-! ## Rules without effect -/

/-- Whether a rule has no effect on a field with a tag, wherever it stands: it
    says that a value need not be given, does not apply to the tag, or has an
    argument that is unusable. -/
def Rule.isInert (r : Rule) (t : TypeTag) : Bool :=
  r.kind = .optional || !r.kind.appliesTo t || r.isUsable = .ok false

namespace Field

/-- A field with other rules. -/
def withRules (f : Field) (rules : List Rule) : Field := { f with rules }

/-- Whether the rule at a place has no effect: it has none wherever it stands, or
    it asks for a value as a rule before it does. -/
def isInert (f : Field) (i : Nat) : Bool :=
  f.rules[i]?.any fun r =>
    r.isInert f.type || r.kind = .required && (f.rules.take i).any (·.kind = .required)

/-- A field without the rules at some places. -/
def without (f : Field) (gone : Nat → Bool) : Field :=
  f.withRules ((f.rules.zipIdx.filter fun p => !gone p.2).map (·.1))

/-- A field without its inert rules. -/
def pruned (f : Field) : Field := f.without f.isInert

end Field

namespace Rule
variable {r : Rule} {t : TypeTag}

theorem isUsable_eq_false : r.isUsable = .ok false ↔
    r.kind.isPresence = false ∧ r.demand? = .ok none := by
  unfold isUsable
  cases r.kind.isPresence with
  | true => simp
  | false =>
    cases r.demand? with
    | error e => simp [Except.map]
    | ok d? => cases d? <;> simp [Except.map]

theorem isInert_iff : r.isInert t = true ↔
    r.kind = .optional ∨ r.kind.appliesTo t = false ∨
      (r.kind.isPresence = false ∧ r.demand? = .ok none) := by
  rw [← isUsable_eq_false]
  simp [isInert, or_assoc]

/-- An inert rule becomes no check. -/
theorem check?_of_isInert (h : r.isInert t = true) {c? : Option Check}
    (hc : r.check? t = .ok c?) : c? = none := by
  cases c? with
  | none => rfl
  | some c =>
    obtain ⟨hk, ha, d, hd, -⟩ := check?_some hc
    rcases isInert_iff.1 h with ho | ha' | ⟨-, hn⟩
    · rw [ho] at hk
      cases hk
    · rw [ha] at ha'
      cases ha'
    · rw [hd] at hn
      cases hn

/-- A rule that is not inert asks for a value, or becomes a check. -/
theorem check?_of_not_isInert (h : r.isInert t = false) (hr : r.kind ≠ .required)
    {c? : Option Check} (hc : r.check? t = .ok c?) : ∃ c, c? = some c := by
  have hi := (not_congr isInert_iff).1 (Bool.eq_false_iff.1 h)
  cases c? with
  | some c => exact ⟨c, rfl⟩
  | none =>
    refine absurd ?_ hi
    cases hp : r.kind.isPresence with
    | true => exact .inl (by simpa [RuleKind.isPresence, hr] using hp)
    | false =>
      rcases check?_none hc with hk | ha | hd
      · rw [hp] at hk
        cases hk
      · exact .inr (.inl ha)
      · exact .inr (.inr ⟨rfl, hd⟩)

/-- A rule that asks for a value always has an effect by itself. -/
theorem isInert_of_required (h : r.kind = .required) : r.isInert t = false := by
  simp [Bool.eq_false_iff, isInert_iff, h, RuleKind.appliesTo, RuleKind.isPresence]

end Rule

namespace Field
variable {f : Field} {i : Nat} {r : Rule} {gone : Nat → Bool}

theorem isInert_iff : f.isInert i = true ↔ ∃ r, f.rules[i]? = some r ∧
    (r.isInert f.type = true ∨
      r.kind = .required ∧ ∃ r' ∈ f.rules.take i, r'.kind = .required) := by
  simp [isInert, Option.any_eq_true]

theorem mem_without : r ∈ (f.without gone).rules ↔
    ∃ i, f.rules[i]? = some r ∧ gone i = false := by
  simp [without, withRules, List.mem_zipIdx_iff_getElem?]

/-- Fields that differ in their rules have one validator, if these make the same
    checks and ask for a value in the same words. -/
theorem compile_withRules {rules : List Rule} (hc : (f.withRules rules).checks = f.checks)
    (hm : (f.withRules rules).requiredMessage = f.requiredMessage) :
    (f.withRules rules).compile = f.compile := by
  unfold compile
  rw [hc, hm]
  rfl

/-! ## Leaving inert rules out -/

/-- The first rule that asks for a value is not inert. -/
theorem not_isInert_first (hr : f.rules[i]? = some r) (hk : r.kind = .required)
    (hb : ∀ r' ∈ f.rules.take i, r'.kind ≠ .required) : f.isInert i = false := by
  rw [Bool.eq_false_iff, Ne, isInert_iff]
  rintro ⟨r', hr', hi | ⟨-, r'', hm, hk''⟩⟩
  · rw [hr] at hr'
    cases hr'
    rw [Rule.isInert_of_required hk] at hi
    cases hi
  · exact hb r'' hm hk''

section
variable (hg : ∀ i, gone i = true → f.isInert i = true)
include hg

theorem requirement?_without : (f.without gone).requirement? = f.requirement? := by
  have kept : ∀ q, f.rules.zipIdx.find? (fun q => q.1.kind = .required) = some q →
      (!gone q.2) = true := by
    rintro ⟨r, i⟩ hq
    obtain ⟨hr, hk, hb⟩ := find?_zipIdx (p := fun r : Rule => r.kind = .required) hq
    have hn : f.isInert i = false := not_isInert_first hr (by simpa using hk) (by simpa using hb)
    rw [Bool.not_eq_true', Bool.eq_false_iff]
    intro hgone
    rw [hg i hgone] at hn
    cases hn
  have first : ((f.rules.zipIdx.filter fun q => !gone q.2).find? fun q => q.1.kind = .required) =
      f.rules.zipIdx.find? fun q => q.1.kind = .required := find?_filter_of_kept kept
  have whole : f.requirement? =
      (f.rules.zipIdx.find? fun q => q.1.kind = .required).map (·.1) := by
    rw [requirement?, ← List.zipIdx_map_fst 0 f.rules, List.find?_map, List.zipIdx_map_fst]
    rfl
  rw [whole, ← first, requirement?, without, withRules, List.find?_map]
  rfl

theorem checks_without {cs : List Check} (hcs : f.checks = .ok cs) :
    (f.without gone).checks = .ok cs := by
  have whole : f.rules.zipIdx.filterMapM (fun q => q.1.check? f.type) = .ok cs := by
    rw [← hcs, checks, ← filterMapM_map Prod.fst (fun r : Rule => r.check? f.type),
      List.zipIdx_map_fst]
  have idle : ∀ q ∈ f.rules.zipIdx, ∀ c?, (!gone q.2) = false →
      q.1.check? f.type = .ok c? → c? = none := by
    rintro ⟨r, i⟩ hq c? hgone hc
    have hr : f.rules[i]? = some r := List.mem_zipIdx_iff_getElem?.1 hq
    obtain ⟨r', hr', hi⟩ := isInert_iff.1 (hg i (by simpa using hgone))
    rw [hr] at hr'
    cases hr'
    rcases hi with hi | ⟨hk, -⟩
    · exact Rule.check?_of_isInert hi hc
    · rw [Rule.check?, hk] at hc
      exact (Except.ok.inj hc).symm
  rw [← filterMapM_filter whole idle, checks, without, withRules, filterMapM_map]

end

/-- Each rule that is left without the inert ones is the first to ask for a
    value, or becomes a check. -/
theorem counts_of_mem_pruned {v : Validator} (hf : f.compile = .ok v) (hr : r ∈ f.pruned.rules) :
    f.requirement? = some r ∨ ∃ c ∈ v.checks, r.check? f.type = .ok (some c) := by
  obtain ⟨i, hi, hn⟩ := mem_without.1 hr
  have hinert := (not_congr isInert_iff).1 (Bool.eq_false_iff.1 hn)
  by_cases hk : r.kind = .required
  · obtain ⟨hlt, rfl⟩ := List.getElem?_eq_some_iff.1 hi
    refine .inl (List.find?_eq_some_iff_getElem.2 ⟨by simpa using hk, i, hlt, rfl, fun j hj => ?_⟩)
    have before : ∀ r' ∈ f.rules.take i, r'.kind ≠ .required := fun r' hm hk' =>
      hinert ⟨_, hi, .inr ⟨hk, r', hm, hk'⟩⟩
    have hm : f.rules[j] ∈ f.rules.take i :=
      List.mem_take_iff_getElem.2 ⟨j, Nat.lt_min.2 ⟨hj, Nat.lt_trans hj hlt⟩, rfl⟩
    simpa using before _ hm
  · have hidle : r.isInert f.type = false :=
      Bool.eq_false_iff.2 fun h => hinert ⟨r, hi, .inl h⟩
    have hm : r ∈ f.rules := List.mem_of_getElem? hi
    obtain ⟨cs, hcs, -, -⟩ := compile_eq_ok hf
    obtain ⟨os, hos, -⟩ := filterMapM_eq_ok.1 hcs
    obtain ⟨c?, -, hc⟩ := forall₂_mem_left hos r hm
    obtain ⟨c, rfl⟩ := Rule.check?_of_not_isInert hidle hk hc
    exact .inr ⟨c, (mem_checks hf).2 ⟨r, hm, hc⟩, hc⟩

end Field

/-- **Inert rules can be erased.**  Rules that say that a value need not be given,
    that do not apply to the type, whose argument is unusable, or that ask for a
    value as one before does: without any of them, at whatever places, a field
    has the very same validator.  Without all of them it has no rule left but
    the first that asks for a value and those that become its checks. -/
theorem inert_rules_erase {f : Field} {v : Validator} (hf : f.compile = .ok v) :
    f.pruned.compile = .ok v ∧
    (∀ gone : Nat → Bool, (∀ i, gone i = true → f.isInert i = true) →
      (f.without gone).compile = .ok v) ∧
    ∀ r ∈ f.pruned.rules,
      f.requirement? = some r ∨ ∃ c ∈ v.checks, r.check? f.type = .ok (some c) := by
  have erased : ∀ gone : Nat → Bool, (∀ i, gone i = true → f.isInert i = true) →
      (f.without gone).compile = .ok v := by
    intro gone hg
    obtain ⟨cs, hcs, -, -⟩ := Field.compile_eq_ok hf
    have hc : (f.without gone).checks = f.checks := (Field.checks_without hg hcs).trans hcs.symm
    have hm : (f.without gone).requiredMessage = f.requiredMessage := by
      rw [Field.requiredMessage_eq, Field.requirement?_without hg, ← Field.requiredMessage_eq]
    exact (Field.compile_withRules hc hm).trans hf
  exact ⟨erased _ fun _ hi => hi, erased, fun r hr => Field.counts_of_mem_pruned hf hr⟩

/-- A number that has to be given, with a rule of every idle sort between the two
    that count and one more that asks for it. -/
theorem inert_rules_erase_number :
    let first : Rule := ⟨.required, .null, "How many?"⟩
    let least : Rule := ⟨.min, .int 1, "At least one"⟩
    let f : Field := { name := "n", label := "Count", type := .declared .number, rules := [
      ⟨.optional, .null, ""⟩, first, ⟨.minLength, .int 2, "Too short"⟩,
      ⟨.max, .text "many", "Too many"⟩, least, ⟨.required, .null, "Please"⟩] }
    ∃ v, f.compile = .ok v ∧ f.pruned.rules = [first, least] ∧ f.pruned.compile = .ok v ∧
      (f.without fun i => i = 0 || i = 5).compile = .ok v := by
  intro first least f
  have hf : f.compile = .ok _ := rfl
  obtain ⟨all, some, -⟩ := inert_rules_erase hf
  refine ⟨_, hf, by decide +kernel, all, some _ fun i hi => ?_⟩
  have : i = 0 ∨ i = 5 := by simpa using hi
  rcases this with rfl | rfl
  · decide +kernel
  · decide +kernel

/-! ## What a field takes -/

namespace Field
variable {f g : Field} {v v' : Validator} {raw w : Value}

theorem requirement?_eq_none : f.requirement? = none ↔ ∀ r ∈ f.rules, r.kind ≠ .required := by
  simp [requirement?]

theorem objection?_eq_none : f.objection? w = none ↔
    (Domain.ofTag f.type = .boolean ∧ w = .bool false → f.requirement? = none) ∧
      ∀ r ∈ f.rules, r.isBroken f.type w = false := by
  rw [objection?, Option.or_eq_none_iff, List.find?_eq_none]
  simp only [Bool.not_eq_true]
  refine and_congr_left' ?_
  split
  · simp [*]
  · simp [*]

/-- **What a field takes with more rules, it takes with fewer**, and as the same. -/
theorem accepted_of_subset (hf : f.compile = .ok v) (hg : g.compile = .ok v')
    (ht : f.type = g.type) (hs : f.rules ⊆ g.rules)
    (h : v'.validate raw = .ok (.accepted w)) : v.validate raw = .ok (.accepted w) := by
  have unasked : g.requirement? = none → f.requirement? = none := fun h =>
    requirement?_eq_none.2 fun r hr => requirement?_eq_none.1 h r (hs hr)
  rw [validate_accepted hf]
  rcases (validate_accepted hg).1 h with ⟨hb, hw, hr⟩ | ⟨hb, hc, ho⟩
  · exact .inl ⟨hb, hw, unasked hr⟩
  · rw [objection?_eq_none, ← ht] at ho
    rw [← ht] at hc
    exact .inr ⟨hb, hc, objection?_eq_none.2
      ⟨fun hd => unasked (ho.1 hd), fun r hr => ho.2 r (hs hr)⟩⟩

/-- A field has a validator iff its type can be looked up and every rule tells
    whether it becomes a check. -/
theorem exists_compile : (∃ v, f.compile = .ok v) ↔
    f.type.isKey = true ∧ ∀ r ∈ f.rules, ∃ c?, r.check? f.type = .ok c? := by
  have hcs : (∃ cs, f.checks = .ok cs) ↔ ∀ r ∈ f.rules, ∃ c?, r.check? f.type = .ok c? := by
    rw [exists_ok_iff, checks, filterMapM_faults]
    simp only [not_exists, not_and, exists_ok_iff]
  rw [← hcs]
  constructor
  · rintro ⟨v, hv⟩
    obtain ⟨cs, hcs, hk, -⟩ := compile_eq_ok hv
    exact ⟨hk, cs, hcs⟩
  · rintro ⟨hk, cs, hcs⟩
    refine ⟨⟨f.name, f.label, f.type, .ofTag f.type, cs, f.requiredMessage⟩, ?_⟩
    rw [compile, hcs, hk]
    rfl

/-- A value is turned down where it is neither taken nor faulted on. -/
theorem rejected_iff {x : Except Fault Outcome} : (∃ e, x = .ok (.rejected e)) ↔
    (¬∃ w, x = .ok (.accepted w)) ∧ ¬∃ e, x = .error e := by
  cases x with
  | error e => simp
  | ok o => cases o <;> simp

end Field

/-- **Rules only restrict, and their order only picks the message.**  One more
    rule, wherever it is put, keeps a field from having a validator only if it
    does not tell whether it becomes a check; and what the field takes with it,
    it takes without it, as the same.  With its rules in another order a field
    takes the same values as the same, turns down the same and faults on the
    same. -/
theorem rules_only_restrict {f : Field} {v : Validator} (hf : f.compile = .ok v) :
    (∀ before r after, f.rules = before ++ after →
      ((∃ v', (f.withRules (before ++ r :: after)).compile = .ok v') ↔
        ∃ c?, r.check? f.type = .ok c?) ∧
      ∀ v', (f.withRules (before ++ r :: after)).compile = .ok v' →
        ∀ raw w, v'.validate raw = .ok (.accepted w) → v.validate raw = .ok (.accepted w)) ∧
    ∀ rules : List Rule, rules.Perm f.rules →
      ∃ v', (f.withRules rules).compile = .ok v' ∧ ∀ raw,
        (∀ w, v'.validate raw = .ok (.accepted w) ↔ v.validate raw = .ok (.accepted w)) ∧
        ((∃ x, v'.validate raw = .ok (.rejected x)) ↔ ∃ x, v.validate raw = .ok (.rejected x)) ∧
        ((∃ e, v'.validate raw = .error e) ↔ ∃ e, v.validate raw = .error e) := by
  obtain ⟨hk, hr⟩ := Field.exists_compile.1 ⟨v, hf⟩
  refine ⟨fun before r after hs => ⟨?made, fun v' hv' raw w => ?taken⟩, fun rules hp => ?order⟩
  case made =>
    rw [Field.exists_compile]
    constructor
    · exact fun h => h.2 r (List.mem_append_right _ List.mem_cons_self)
    · refine fun h => ⟨hk, fun r' hr' => ?_⟩
      rcases List.mem_append.1 hr' with hb | ha
      · exact hr r' (hs ▸ List.mem_append_left _ hb)
      · rcases List.mem_cons.1 ha with rfl | ha
        · exact h
        · exact hr r' (hs ▸ List.mem_append_right _ ha)
  case taken =>
    have more : f.rules ⊆ (f.withRules (before ++ r :: after)).rules := by
      rw [hs]
      exact ((List.sublist_cons_self r after).append_left before).subset
    exact Field.accepted_of_subset hf hv' rfl more
  case order =>
    have fewer : f.rules ⊆ (f.withRules rules).rules := hp.symm.subset
    have more : (f.withRules rules).rules ⊆ f.rules := hp.subset
    obtain ⟨v', hv'⟩ : ∃ v', (f.withRules rules).compile = .ok v' :=
      Field.exists_compile.2 ⟨hk, fun r hm => hr r (more hm)⟩
    refine ⟨v', hv', fun raw => ?_⟩
    have taken : ∀ w, v'.validate raw = .ok (.accepted w) ↔
        v.validate raw = .ok (.accepted w) := fun w =>
      ⟨Field.accepted_of_subset hf hv' rfl fewer, Field.accepted_of_subset hv' hf rfl more⟩
    have faults : (∃ e, v'.validate raw = .error e) ↔ ∃ e, v.validate raw = .error e :=
      (Field.validate_faults hv').trans (Field.validate_faults hf).symm
    exact ⟨taken, by simp only [Field.rejected_iff, taken, faults], faults⟩

/-- A box with a rule that it has to be ticked: it takes less than without the
    rule, and the same wherever the rule stands. -/
theorem rules_only_restrict_box :
    let ask : Rule := ⟨.required, .null, "Please agree"⟩
    let may : Rule := ⟨.optional, .null, ""⟩
    let box : Field :=
      { name := "ok", label := "OK", type := .declared .checkbox, rules := [may] }
    ∃ v v₁ v₂, box.compile = .ok v ∧ (box.withRules [may, ask]).compile = .ok v₁ ∧
      (box.withRules [ask, may]).compile = .ok v₂ ∧
      v₁.validate (.text "yes") = .ok (.accepted (.bool true)) ∧
      v.validate (.text "yes") = .ok (.accepted (.bool true)) ∧
      v₂.validate (.text "yes") = .ok (.accepted (.bool true)) ∧
      ∃ x, v₂.validate (.text "no") = .ok (.rejected x) := by
  intro ask may box
  have hv : box.compile = .ok _ := rfl
  have hv₁ : (box.withRules [may, ask]).compile = .ok _ := rfl
  obtain ⟨v₂, hv₂, same⟩ := (rules_only_restrict hv₁).2 [ask, may] (.swap may ask [])
  refine ⟨_, _, v₂, hv, hv₁, hv₂, by decide +kernel, ?fewer, ?taken, ?refused⟩
  case fewer =>
    exact ((rules_only_restrict hv).1 [may] ask [] rfl).2 _ hv₁ _ _ (by decide +kernel)
  case taken => exact ((same (.text "yes")).1 (.bool true)).2 (by decide +kernel)
  case refused =>
    exact (same (.text "no")).2.1.2
      ⟨⟨"ok", "required", "Please agree", .text "no"⟩, by decide +kernel⟩

end Formulary
