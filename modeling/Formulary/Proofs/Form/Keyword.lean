/-
  The keywords by which a field is described in JSON Schema, and the checks that
  its validator makes.

  * `Export.lookup_property`: a keyword shows the argument of the last rule of
    its kind;
  * `Limit` is what a keyword means in JSON Schema, and `Validator.IsShown` that
    all keywords of a description mean what the checks say;
  * `Form.keywords_agree_iff`: they do iff each shows the strictest argument of
    its kind, in a form that JSON Schema knows.
-/
import Formulary.Proofs.Number.Order
import Formulary.Proofs.Schema

namespace Formulary

/-! ## Arguments that are shown -/

/-- The argument that is shown for a kind of rule: that of the last rule of the
    kind that has one, if the kind takes effect. -/
def Field.shown? (f : Field) (k : RuleKind) : Option Value :=
  if k.appliesTo f.type then
    (f.rules.reverse.find? fun r => r.kind = k && r.argument ≠ .null).map (·.argument)
  else none

namespace Export
variable {f : Field} {k k' : RuleKind} {key : String}

theorem keyword?_inj (h : keyword? k = some key) (h' : keyword? k' = some key) : k = k' := by
  cases k <;> cases k' <;> simp_all [keyword?] <;> simp [← h] at h'

theorem keyword_eq_some {r : Rule} {e : String × Value} : keyword f r = some e ↔
    r.kind.appliesTo f.type = true ∧ r.argument ≠ .null ∧
      keyword? r.kind = some e.1 ∧ r.argument = e.2 := by
  obtain ⟨key, a⟩ := e
  unfold keyword
  cases keyword? r.kind with
  | none =>
    constructor
    · intro h
      cases h
    · rintro ⟨-, -, h, -⟩
      cases h
  | some k =>
    change (if r.argument ≠ .null ∧ r.kind.appliesTo f.type = true then some () else none) >>=
      (fun _ => some (k, r.argument)) = some (key, a) ↔ _
    by_cases hg : r.argument ≠ .null ∧ r.kind.appliesTo f.type = true
    · rw [if_pos hg]
      simp [hg]
    · rw [if_neg hg]
      constructor
      · intro h
        cases h
      · rintro ⟨ha, hn, -, -⟩
        exact absurd ⟨hn, ha⟩ hg

/-- The keyword of a kind among those of rules is that of the first rule of the
    kind that has an argument. -/
theorem lookup_keywords (hk : keyword? k = some key) (rs : List Rule) :
    (rs.filterMap (keyword f)).lookup key =
      if k.appliesTo f.type then
        (rs.find? fun r => r.kind = k && r.argument ≠ .null).map (·.argument)
      else none := by
  induction rs with
  | nil => simp
  | cons r rs ih =>
    cases he : keyword f r with
    | some e =>
      obtain ⟨key', a⟩ := e
      obtain ⟨ha, hn, hr, rfl⟩ := keyword_eq_some.1 he
      rw [List.filterMap_cons_some he, List.lookup_cons, List.find?_cons]
      by_cases hkr : r.kind = k
      · subst hkr
        obtain rfl : key = key' := Option.some.inj (hk.symm.trans hr)
        simp [ha, hn]
      · have hne : key ≠ key' := fun e => hkr (keyword?_inj hr (e ▸ hk))
        simp [beq_eq_false_iff_ne.2 hne, hkr, ih]
    | none =>
      rw [List.filterMap_cons_none he, ih, List.find?_cons]
      by_cases hkr : r.kind = k
      · subst hkr
        cases ha : r.kind.appliesTo f.type with
        | false => simp
        | true =>
          have hn : r.argument = .null := by
            by_contra hn
            have hs := (keyword_eq_some (e := (key, r.argument))).2 ⟨ha, hn, hk, rfl⟩
            rw [he] at hs
            cases hs
          simp [hn]
      · simp [hkr]

/-- No entry but those of rules has a keyword. -/
theorem keyword?_ne (hk : keyword? k = some key) :
    key ∉ ["type", "title", "format", "enum", "default"] := by
  cases k <;> cases hk <;> decide

/-- **A keyword of a description shows** the argument of the last rule of its
    kind. -/
theorem lookup_property (hk : keyword? k = some key) :
    (property f).lookup key = f.shown? k := by
  unfold property
  extract_lets known base
  have hne := keyword?_ne hk
  simp only [List.mem_cons, not_or] at hne
  obtain ⟨h₁, h₂, h₃, h₄, h₅, -⟩ := hne
  have hformat : (((known.bind format?).map fun s => ("format", Value.text s)).toList).lookup key
      = none := by
    cases known.bind format? <;> simp [List.lookup_cons, beq_eq_false_iff_ne.2 h₃]
  have henum : (enum f).lookup key = none := by
    unfold enum
    split <;> simp [List.lookup_cons, beq_eq_false_iff_ne.2 h₄]
  have hdefault : (if f.default = .null then [] else [("default", f.default)]).lookup key
      = none := by
    split <;> simp [List.lookup_cons, beq_eq_false_iff_ne.2 h₅]
  have hbase : base.lookup key = none := by
    simp only [base, List.lookup_append, hformat, henum, hdefault, List.lookup_cons,
      beq_eq_false_iff_ne.2 h₁, beq_eq_false_iff_ne.2 h₂, List.lookup_nil, Option.or_none]
  rw [Entries.lookup_foldl_put, ← List.filterMap_reverse, lookup_keywords hk, hbase, Option.or_none]
  rfl

end Export

/-! ## What keywords mean -/

/-- What a keyword says of numbers, or of the lengths of texts. -/
inductive Limit where
  | minimum (n : Number)
  | maximum (n : Number)
  | minLength (n : Nat)
  | maxLength (n : Nat)

/-- The natural number that a value is, if it is a number and there is one. -/
def Value.natural? : Value → Option Nat
  | .number n => n.toInt?.bind Int.toNat?
  | _ => none

namespace Limit

/-- What a keyword says with a value, which has to be a number, and for a length
    a natural one. -/
def read? : String → Value → Option Limit
  | "minimum", .number n => if n.isNaN then none else some (.minimum n)
  | "maximum", .number n => if n.isNaN then none else some (.maximum n)
  | "minLength", v => v.natural?.map .minLength
  | "maxLength", v => v.natural?.map .maxLength
  | _, _ => none

/-- Whether a value keeps to a limit.  A limit says nothing of values of other
    kinds. -/
def Allows : Limit → Value → Prop
  | .minimum n, .number m => n.le m = true
  | .maximum n, .number m => m.le n = true
  | .minLength n, .text s => n ≤ s.length
  | .maxLength n, .text s => s.length ≤ n
  | _, _ => True

end Limit

/-- Whether a description shows the checks of a kind under a keyword: it has the
    keyword iff there are any and, but for patterns, a value of the domain keeps
    to the limit iff it passes them all. -/
structure Validator.Shows (v : Validator) (p : Entries) (k : RuleKind) (key : String) : Prop where
  present : (p.lookup key).isSome = true ↔ ∃ c ∈ v.checks, c.kind = k
  means : k ≠ .pattern → ∀ a, p.lookup key = some a → ∃ l, Limit.read? key a = some l ∧
    ∀ w, v.domain.Has w → (l.Allows w ↔ ∀ c ∈ v.checks, c.kind = k → c.passes w = .ok true)

/-- Whether a description shows all checks that there are keywords for. -/
def Validator.IsShown (v : Validator) (p : Entries) : Prop :=
  ∀ k key, Export.keyword? k = some key → v.Shows p k key

/-! ## Checks of a kind -/

section
variable {f : Field} {v : Validator} {k : RuleKind}

/-- The checks of a kind that takes effect are the demands of its rules. -/
theorem Field.mem_checks_of_kind (hf : f.compile = .ok v) (hk : k.isPresence = false)
    (ha : k.appliesTo f.type = true) {c : Check} :
    c ∈ v.checks ∧ c.kind = k ↔ ∃ r ∈ f.rules, r.kind = k ∧
      ∃ d, r.demand? = .ok (some d) ∧ c = ⟨k, r.message, d⟩ := by
  obtain ⟨-, -, ht, -⟩ := compile_eq_ok hf
  rw [mem_checks hf]
  constructor
  · rintro ⟨⟨r, hr, hc⟩, hck⟩
    obtain ⟨-, -, d, hd, rfl⟩ := Rule.check?_some hc
    exact ⟨r, hr, hck, d, hd, hck ▸ rfl⟩
  · rintro ⟨r, hr, rfl, d, hd, rfl⟩
    exact ⟨⟨r, hr, (Rule.check?_eq_some ht hk ha).2 ⟨d, hd, rfl⟩⟩, rfl⟩

/-- A kind that takes no effect has no checks. -/
theorem Field.appliesTo_of_mem_checks (hf : f.compile = .ok v) {c : Check} (hc : c ∈ v.checks) :
    c.kind.appliesTo f.type = true := by
  obtain ⟨r, -, hr⟩ := (mem_checks hf).1 hc
  obtain ⟨-, ha, d, -, rfl⟩ := Rule.check?_some hr
  exact ha

/-! ## Limits of a kind -/

/-- What the arguments of the rules of a kind are read as, where they are of use. -/
def Field.limits {α : Type} (f : Field) (k : RuleKind) (read? : Value → Option α) : List α :=
  (f.rules.filter (·.kind = k)).filterMap fun r => read? r.argument

variable {α : Type} {read? : Value → Option α} {demand : α → Demand}

theorem Field.mem_limits {a : α} :
    a ∈ f.limits k read? ↔ ∃ r ∈ f.rules, r.kind = k ∧ read? r.argument = some a := by
  simp only [limits, List.mem_filterMap, List.mem_filter, decide_eq_true_eq, and_assoc]

section
variable (hf : f.compile = .ok v) (hk : k.isPresence = false) (ha : k.appliesTo f.type = true)
  (hd : ∀ r : Rule, r.kind = k → r.demand? = .ok ((read? r.argument).map demand))
include hf hk ha hd

/-- The checks of a kind demand the limits of the kind. -/
theorem Field.demands_eq_limits {d : Demand} :
    (∃ c ∈ v.checks, c.kind = k ∧ c.demand = d) ↔ ∃ a ∈ f.limits k read?, demand a = d := by
  constructor
  · rintro ⟨c, hc, hck, rfl⟩
    obtain ⟨r, hr, hrk, d, hrd, rfl⟩ := (mem_checks_of_kind hf hk ha).1 ⟨hc, hck⟩
    rw [hd r hrk] at hrd
    obtain ⟨a, hra, rfl⟩ := Option.map_eq_some_iff.1 (Except.ok.inj hrd)
    exact ⟨a, mem_limits.2 ⟨r, hr, hrk, hra⟩, rfl⟩
  · rintro ⟨a, hm, rfl⟩
    obtain ⟨r, hr, hrk, hra⟩ := mem_limits.1 hm
    obtain ⟨hc, hck⟩ := (mem_checks_of_kind hf hk ha).2
      ⟨r, hr, hrk, demand a, by rw [hd r hrk, hra]; rfl, rfl⟩
    exact ⟨_, hc, hck, rfl⟩

theorem Field.exists_check_iff :
    (∃ c ∈ v.checks, c.kind = k) ↔ ∃ a, a ∈ f.limits k read? := by
  constructor
  · rintro ⟨c, hc, hck⟩
    obtain ⟨a, hm, -⟩ := (demands_eq_limits hf hk ha hd).1 ⟨c, hc, hck, rfl⟩
    exact ⟨a, hm⟩
  · rintro ⟨a, hm⟩
    obtain ⟨c, hc, hck, -⟩ := (demands_eq_limits hf hk ha hd).2 ⟨a, hm, rfl⟩
    exact ⟨c, hc, hck⟩

theorem Field.passes_iff {w : Value} : (∀ c ∈ v.checks, c.kind = k → c.passes w = .ok true) ↔
    ∀ a ∈ f.limits k read?, (demand a).holds w = .ok true := by
  constructor
  · intro h a hm
    obtain ⟨c, hc, hck, hcd⟩ := (demands_eq_limits hf hk ha hd).2 ⟨a, hm, rfl⟩
    exact hcd ▸ h c hc hck
  · intro h c hc hck
    obtain ⟨a, hm, hcd⟩ := (demands_eq_limits hf hk ha hd).1 ⟨c, hc, hck, rfl⟩
    rw [Check.passes, ← hcd]
    exact h a hm

end

/-! ## The strictest limit -/

/-- Of numbers in an order, one says what all of them do iff they are all before
    it. -/
theorem agrees_iff_strictest {R : Number → Number → Prop} {L : List Number} {n : Number}
    (refl : ∀ m, R m m ↔ m.isNaN = false) (trans : ∀ a b c, R a b → R b c → R a c) (hn : n ∈ L) :
    (n.isNaN = false ∧ ∀ m : Number, m.isNaN = false → (R n m ↔ ∀ b ∈ L, R b m)) ↔
      ∀ b ∈ L, R b n := by
  constructor
  · rintro ⟨hnan, h⟩
    exact (h n hnan).1 ((refl n).2 hnan)
  · intro h
    exact ⟨(refl n).1 (h n hn), fun m _ =>
      ⟨fun hm b hb => trans b n m (h b hb) hm, fun hm => hm n hn⟩⟩

/-- Of least lengths, one says what all of them do iff it is the greatest. -/
theorem least_agrees_iff {L : List Nat} {n : Nat} :
    ((∃ m, m ∈ L) ∧ ∀ x, n ≤ x ↔ ∀ m ∈ L, m ≤ x) ↔ n ∈ L ∧ ∀ m ∈ L, m ≤ n := by
  constructor
  · rintro ⟨⟨m, hm⟩, h⟩
    have hmax : ∀ m ∈ L, m ≤ n := (h n).1 (Nat.le_refl n)
    refine ⟨?_, hmax⟩
    cases n with
    | zero => exact Nat.le_zero.1 (hmax m hm) ▸ hm
    | succ x =>
      -- a text shorter by one is too short for one of them
      obtain ⟨m, hm, hlt⟩ : ∃ m ∈ L, x < m := by
        simpa using mt (h x).2 (Nat.not_succ_le_self x)
      exact Nat.le_antisymm (hmax m hm) hlt ▸ hm
  · rintro ⟨hn, h⟩
    exact ⟨⟨n, hn⟩, fun x => ⟨fun hx m hm => Nat.le_trans (h m hm) hx, fun hx => hx n hn⟩⟩

/-- Of greatest lengths, one says what all of them do iff it is the least. -/
theorem most_agrees_iff {L : List Nat} {n : Nat} :
    ((∃ m, m ∈ L) ∧ ∀ x, x ≤ n ↔ ∀ m ∈ L, x ≤ m) ↔ n ∈ L ∧ ∀ m ∈ L, n ≤ m := by
  constructor
  · rintro ⟨-, h⟩
    have hmin : ∀ m ∈ L, n ≤ m := (h n).1 (Nat.le_refl n)
    refine ⟨?_, hmin⟩
    -- a text longer by one is too long for one of them
    obtain ⟨m, hm, hlt⟩ : ∃ m ∈ L, m < n + 1 := by
      simpa using mt (h (n + 1)).2 (Nat.not_succ_le_self n)
    exact Nat.le_antisymm (Nat.lt_succ_iff.1 hlt) (hmin m hm) ▸ hm
  · rintro ⟨hn, h⟩
    exact ⟨⟨n, hn⟩, fun x => ⟨fun hx m hm => Nat.le_trans hx (h m hm), fun hx => hx n hn⟩⟩

/-! ## Keywords and checks -/

/-- Whether an argument that is shown for a kind is one that the keyword takes,
    and the strictest of the kind; of patterns, whether any is of use. -/
def Field.ShowsStrictest (f : Field) (a : Value) : RuleKind → Prop
  | .min => ∃ n, a = .number n ∧ ∀ b ∈ f.limits .min Value.bound?, b.le n = true
  | .max => ∃ n, a = .number n ∧ ∀ b ∈ f.limits .max Value.bound?, n.le b = true
  | .minLength => ∃ n, a.natural? = some n ∧ n ∈ f.limits .minLength Value.length? ∧
      ∀ m ∈ f.limits .minLength Value.length?, m ≤ n
  | .maxLength => ∃ n, a.natural? = some n ∧ n ∈ f.limits .maxLength Value.length? ∧
      ∀ m ∈ f.limits .maxLength Value.length?, n ≤ m
  | .pattern => ∃ r ∈ f.rules, r.kind = .pattern ∧ ∃ d, r.demand? = .ok (some d)
  | _ => True

variable {p : Entries} {key : String} {a : Value}

theorem Field.shown?_some (h : f.shown? k = some a) :
    k.appliesTo f.type = true ∧ ∃ r ∈ f.rules, r.kind = k ∧ r.argument = a := by
  unfold shown? at h
  split at h
  · obtain ⟨r, hr, rfl⟩ := Option.map_eq_some_iff.1 h
    have hk := List.find?_some hr
    simp only [Bool.and_eq_true, decide_eq_true_eq] at hk
    exact ⟨‹_›, r, List.mem_reverse.1 (List.mem_of_find?_eq_some hr), hk.1, rfl⟩
  · cases h

theorem Export.isPresence_of_keyword? (hk : keyword? k = some key) : k.isPresence = false := by
  cases k <;> first | rfl | cases hk

/-- A rule that there is a keyword for demands nothing without an argument. -/
theorem Rule.demand?_null {r : Rule} (hk : Export.keyword? r.kind = some key)
    (hn : r.argument = .null) : r.demand? = .ok none := by
  obtain ⟨k, a, m⟩ := r
  cases hn
  cases k <;> first | rfl | cases hk

/-- A kind of which nothing is shown has no checks. -/
theorem Field.no_check_of_shown? (hf : f.compile = .ok v) (hk : Export.keyword? k = some key)
    (h : f.shown? k = none) : ∀ c ∈ v.checks, c.kind ≠ k := by
  rintro c hc rfl
  have ha := appliesTo_of_mem_checks hf hc
  have hp := Export.isPresence_of_keyword? hk
  obtain ⟨r, hr, hrk, d, hd, -⟩ := (mem_checks_of_kind hf hp ha).1 ⟨hc, rfl⟩
  rw [shown?, if_pos ha, Option.map_eq_none_iff, List.find?_eq_none] at h
  have hn : r.argument = .null := by
    simpa [hrk] using h r (List.mem_reverse.2 hr)
  rw [Rule.demand?_null (hrk ▸ hk) hn] at hd
  cases hd

namespace Validator

theorem shows_of_absent (hp : p.lookup key = none) (hn : ∀ c ∈ v.checks, c.kind ≠ k) :
    v.Shows p k key where
  present := by
    rw [hp]
    constructor
    · intro h
      cases h
    · rintro ⟨c, hc, hck⟩
      exact absurd hck (hn c hc)
  means _ a ha := by
    rw [hp] at ha
    cases ha

theorem shows_iff (hp : p.lookup key = some a) : v.Shows p k key ↔
    (∃ c ∈ v.checks, c.kind = k) ∧ (k ≠ .pattern → ∃ l, Limit.read? key a = some l ∧
      ∀ w, v.domain.Has w →
        (l.Allows w ↔ ∀ c ∈ v.checks, c.kind = k → c.passes w = .ok true)) := by
  constructor
  · rintro ⟨present, means⟩
    exact ⟨present.1 (by rw [hp]; rfl), fun hk => means hk a hp⟩
  · rintro ⟨hc, hm⟩
    refine ⟨⟨fun _ => hc, fun _ => by rw [hp]; rfl⟩, fun hk a' ha' => ?_⟩
    obtain rfl : a = a' := Option.some.inj (hp.symm.trans ha')
    exact hm hk

end Validator

section
variable (hf : f.compile = .ok v) (hs : f.shown? k = some a) (hp : p.lookup key = some a)
include hf hs hp

/-- The checks of a kind are shown by a limit that says of the domain what all
    limits of the kind say. -/
theorem Field.shows_limit_iff {β : Type} {R : α → β → Prop} {limit : α → Limit}
    {Takes : α → Prop} {Means : β → Prop} {value : β → Value}
    (hk : k.isPresence = false) (hpat : k ≠ .pattern)
    (hd : ∀ r : Rule, r.kind = k → r.demand? = .ok ((read? r.argument).map demand))
    (domain : ∀ w, v.domain.Has w ↔ ∃ b, w = value b ∧ Means b)
    (read : ∀ l, Limit.read? key a = some l ↔ ∃ n, Takes n ∧ limit n = l)
    (allows : ∀ n b, (limit n).Allows (value b) ↔ R n b)
    (holds : ∀ n b, (demand n).holds (value b) = .ok true ↔ R n b) :
    v.Shows p k key ↔ ∃ n, Takes n ∧ (∃ m, m ∈ f.limits k read?) ∧
      ∀ b, Means b → (R n b ↔ ∀ m ∈ f.limits k read?, R m b) := by
  obtain ⟨ha, -⟩ := shown?_some hs
  have passes (b : β) := passes_iff hf hk ha hd (w := value b)
  simp only [holds] at passes
  rw [Validator.shows_iff hp, exists_check_iff hf hk ha hd]
  simp only [hpat, ne_eq, not_false_eq_true, forall_const]
  constructor
  · rintro ⟨hne, l, hl, hw⟩
    obtain ⟨n, hn, rfl⟩ := (read l).1 hl
    refine ⟨n, hn, hne, fun b hb => ?_⟩
    rw [← allows, hw _ ((domain _).2 ⟨b, rfl, hb⟩), passes]
  · rintro ⟨n, hn, hne, h⟩
    refine ⟨hne, limit n, (read _).2 ⟨n, hn, rfl⟩, fun w hw => ?_⟩
    obtain ⟨b, rfl, hb⟩ := (domain w).1 hw
    rw [allows, h b hb, passes]

/-- A bound on numbers is shown by a number before all others of the kind. -/
theorem Field.shows_number_iff {R : Number → Number → Prop} (limit : Number → Limit)
    {demand : Number → Demand} (hk : k = .min ∨ k = .max)
    (hd : ∀ r : Rule, r.kind = k → r.demand? = .ok (r.argument.bound?.map demand))
    (read : ∀ l, Limit.read? key a = some l ↔
      ∃ n, (a = .number n ∧ n.isNaN = false) ∧ limit n = l)
    (allows : ∀ n m, (limit n).Allows (.number m) ↔ R n m)
    (holds : ∀ n m, (demand n).holds (.number m) = .ok true ↔ R n m)
    (refl : ∀ m, R m m ↔ m.isNaN = false) (trans : ∀ a b c, R a b → R b c → R a c) :
    v.Shows p k key ↔ ∃ n, a = .number n ∧ ∀ b ∈ f.limits k Value.bound?, R b n := by
  obtain ⟨ha, r, hr, hrk, hra⟩ := shown?_some hs
  have hpres : k.isPresence = false := by rcases hk with rfl | rfl <;> rfl
  have hpat : k ≠ .pattern := by rcases hk with rfl | rfl <;> decide
  have hdom : v.domain = .number := by
    obtain ⟨_, -, -, rfl⟩ := compile_eq_ok hf
    exact (RuleKind.domain_of_appliesTo hpres ha).trans (if_pos hk)
  rw [shows_limit_iff hf hs hp hpres hpat hd (fun w => by rw [hdom]; rfl) read allows holds]
  refine exists_congr fun n => ?_
  -- what is shown is read as the bound of its rule, so it is one of the kind
  have hn (h : a = .number n) : n ∈ f.limits k Value.bound? :=
    mem_limits.2 ⟨r, hr, hrk, by rw [hra, h]; rfl⟩
  constructor
  · rintro ⟨⟨h, hnan⟩, -, hag⟩
    exact ⟨h, (agrees_iff_strictest refl trans (hn h)).1 ⟨hnan, hag⟩⟩
  · rintro ⟨h, hall⟩
    obtain ⟨hnan, hag⟩ := (agrees_iff_strictest refl trans (hn h)).2 hall
    exact ⟨⟨h, hnan⟩, ⟨n, hn h⟩, hag⟩

/-- A bound on lengths is shown by a natural number, one of the kind and before
    all others. -/
theorem Field.shows_length_iff {R : Nat → Nat → Prop} (limit : Nat → Limit)
    {demand : Nat → Demand} (hk : k = .minLength ∨ k = .maxLength)
    (hd : ∀ r : Rule, r.kind = k → r.demand? = .ok (r.argument.length?.map demand))
    (read : ∀ l, Limit.read? key a = some l ↔ ∃ n, a.natural? = some n ∧ limit n = l)
    (allows : ∀ n s, (limit n).Allows (.text s) ↔ R n s.length)
    (holds : ∀ n s, (demand n).holds (.text s) = .ok true ↔ R n s.length)
    (agrees : ∀ (L : List Nat) n, ((∃ m, m ∈ L) ∧ ∀ x, R n x ↔ ∀ m ∈ L, R m x) ↔
      n ∈ L ∧ ∀ m ∈ L, R m n) :
    v.Shows p k key ↔ ∃ n, a.natural? = some n ∧ n ∈ f.limits k Value.length? ∧
      ∀ m ∈ f.limits k Value.length?, R m n := by
  obtain ⟨ha, -⟩ := shown?_some hs
  have hpres : k.isPresence = false := by rcases hk with rfl | rfl <;> rfl
  have hpat : k ≠ .pattern := by rcases hk with rfl | rfl <;> decide
  have hdom : v.domain = .string := by
    obtain ⟨_, -, -, rfl⟩ := compile_eq_ok hf
    refine (RuleKind.domain_of_appliesTo hpres ha).trans (if_neg ?_)
    rcases hk with rfl | rfl <;> decide
  have domain (w : Value) : v.domain.Has w ↔ ∃ s, w = .text s ∧ True := by
    simp only [hdom, Domain.Has, and_true]
  rw [shows_limit_iff hf hs hp hpres hpat hd domain read allows holds]
  refine exists_congr fun n => and_congr_right fun _ => (Iff.trans ?_ (agrees _ n))
  refine and_congr_right fun _ => ⟨fun h x => ?_, fun h s _ => h s.length⟩
  -- there is a text of every length
  have hx : (String.ofList (List.replicate x 'a')).length = x := by simp
  rw [← hx]
  exact h _ trivial

end

theorem Limit.read?_minimum {l : Limit} : Limit.read? "minimum" a = some l ↔
    ∃ n, (a = .number n ∧ n.isNaN = false) ∧ minimum n = l := by
  cases a <;> simp [Limit.read?]

theorem Limit.read?_maximum {l : Limit} : Limit.read? "maximum" a = some l ↔
    ∃ n, (a = .number n ∧ n.isNaN = false) ∧ maximum n = l := by
  cases a <;> simp [Limit.read?]

/-- **A description shows the checks of a kind** iff what it shows is the
    strictest argument of the kind. -/
theorem Field.shows_iff (hf : f.compile = .ok v) (hk : Export.keyword? k = some key) :
    v.Shows (Export.property f) k key ↔ ∀ a, f.shown? k = some a → f.ShowsStrictest a k := by
  have hp := Export.lookup_property (f := f) hk
  cases hs : f.shown? k with
  | none =>
    rw [hs] at hp
    refine iff_of_true (Validator.shows_of_absent hp (no_check_of_shown? hf hk hs)) fun a ha => ?_
    cases ha
  | some a =>
    rw [hs] at hp
    simp only [Option.some.injEq, forall_eq']
    cases k with
    | required | optional | email => cases hk
    | min =>
      cases hk
      exact shows_number_iff (R := fun b m => b.le m = true) hf hs hp .minimum (.inl rfl)
        (fun r hr => by rw [Rule.demand?, hr]) (fun _ => Limit.read?_minimum) (fun _ _ => .rfl)
        (fun _ _ => by simp [Demand.holds, Demand.ask, Value.comparable?])
        (fun _ => Number.le_self) fun _ _ _ => Number.le_trans
    | max =>
      cases hk
      exact shows_number_iff (R := fun b m => m.le b = true) hf hs hp .maximum (.inr rfl)
        (fun r hr => by rw [Rule.demand?, hr]) (fun _ => Limit.read?_maximum) (fun _ _ => .rfl)
        (fun _ _ => by simp [Demand.holds, Demand.ask, Value.comparable?])
        (fun _ => Number.le_self) fun _ _ _ h h' => Number.le_trans h' h
    | minLength =>
      cases hk
      exact shows_length_iff (R := fun m x => m ≤ x) hf hs hp .minLength (.inl rfl)
        (fun r hr => by rw [Rule.demand?, hr]) (fun _ => by simp [Limit.read?]) (fun _ _ => .rfl)
        (fun _ _ => by simp [Demand.holds, Demand.ask, Value.size?]) fun _ _ => least_agrees_iff
    | maxLength =>
      cases hk
      exact shows_length_iff (R := fun m x => x ≤ m) hf hs hp .maxLength (.inr rfl)
        (fun r hr => by rw [Rule.demand?, hr]) (fun _ => by simp [Limit.read?]) (fun _ _ => .rfl)
        (fun _ _ => by simp [Demand.holds, Demand.ask, Value.size?]) fun _ _ => most_agrees_iff
    | pattern =>
      obtain ⟨ha, -⟩ := shown?_some hs
      rw [Validator.shows_iff hp]
      simp only [ne_eq, not_true_eq_false, false_implies, and_true]
      constructor
      · rintro ⟨c, hc, hck⟩
        obtain ⟨r, hr, hrk, d, hd, -⟩ := (mem_checks_of_kind hf rfl ha).1 ⟨hc, hck⟩
        exact ⟨r, hr, hrk, d, hd⟩
      · rintro ⟨r, hr, hrk, d, hd⟩
        exact ⟨_, (mem_checks_of_kind hf rfl ha).2 ⟨r, hr, hrk, d, hd, rfl⟩⟩

end

namespace Form
variable {form : Form} {strict : Bool} {s : Schema}

/-- **The keywords of a description agree with the checks** of a field iff each of
    them shows the strictest argument of its kind. -/
theorem keywords_agree_iff (hd : form.IsDeclared) (hn : (form.fields.map (·.name)).Nodup)
    (hc : Schema.compile strict form.fields = .ok s) :
    ∃ d properties, form.jsonSchema = .ok d ∧
      d.get? "properties" = some (.record properties) ∧
      ∀ f ∈ form.fields, ∃ p v, properties.lookup f.name = some (.record p) ∧
        s.get? f.name = some v ∧
        (v.IsShown p ↔ ∀ k a, f.shown? k = some a → f.ShowsStrictest a k) := by
  obtain ⟨d, properties, hj, hp, hl⟩ := lists_jsonSchema hd
  refine ⟨d, properties, hj, hp, fun f hf => ?_⟩
  have hlast := lastField?_of_nodup hn hf
  have hm := mem_names hlast
  obtain ⟨g, _, hg, hlp, rfl⟩ := hl.last f.name hm
  obtain rfl : g = f := Option.some.inj (hg.symm.trans hlast)
  obtain ⟨g', v, hg', hlv, hv⟩ := (Schema.lists_of_compile hc).last g.name hm
  obtain rfl : g' = g := Option.some.inj (hg'.symm.trans hg)
  refine ⟨_, v, hlp, hlv, ?_⟩
  constructor
  · intro h k a hs
    cases hk : Export.keyword? k with
    | some key => exact (Field.shows_iff hv hk).1 (h k key hk) a hs
    | none => cases k <;> trivial
  · intro h k key hk
    exact (Field.shows_iff hv hk).2 (h k)

/-- The laxer of two bounds is shown where it stands behind the stricter, and the
    stricter where that stands behind. -/
theorem keywords_agree_iff_repeated :
    let least (n : Int) : Rule := ⟨.min, .int n, "Too few"⟩
    let guests : Field := { name := "guests", label := "Guests", type := .declared .number
                            rules := [least 5, least 3] }
    let rooms : Field := { name := "rooms", label := "Rooms", type := .declared .number
                           rules := [least 1, least 2] }
    ∃ s d properties, Schema.compile false [guests, rooms] = .ok s ∧
      jsonSchema { fields := [guests, rooms] } = .ok d ∧
      d.get? "properties" = some (.record properties) ∧
      (∃ p v, properties.lookup "guests" = some (.record p) ∧ s.get? "guests" = some v ∧
        ¬v.IsShown p) ∧
      ∃ p v, properties.lookup "rooms" = some (.record p) ∧ s.get? "rooms" = some v ∧
        v.IsShown p := by
  intro least guests rooms
  have hd : ({ fields := [guests, rooms] } : Form).IsDeclared := by
    simp [IsDeclared, guests, rooms]
  have hc : Schema.compile false [guests, rooms] = .ok _ := rfl
  obtain ⟨d, properties, hj, hp, agree⟩ := keywords_agree_iff hd (by decide) hc
  refine ⟨_, d, properties, hc, hj, hp, ?_, ?_⟩
  · obtain ⟨p, v, hlp, hlv, hiff⟩ := agree guests (by simp)
    refine ⟨p, v, hlp, hlv, fun h => ?_⟩
    obtain ⟨n, hn, hle⟩ := hiff.1 h .min (.int 3) rfl
    cases hn
    have five : Number.whole 5 ∈ guests.limits .min Value.bound? := by decide +kernel
    exact absurd (hle _ five) (by decide +kernel)
  · obtain ⟨p, v, hlp, hlv, hiff⟩ := agree rooms (by simp)
    refine ⟨p, v, hlp, hlv, hiff.2 fun k a hs => ?_⟩
    cases k with
    | min =>
      cases hs
      exact ⟨.whole 2, rfl, by decide +kernel⟩
    | _ => cases hs

/-- A bound is shown of which no check is made, and another that is laxer than
    the check. -/
theorem keyword_without_check :
    let age : Field :=
      { name := "age", label := "Age", type := .declared .number,
        rules := [⟨.min, .text "abc", "Too young"⟩] }
    let size : Field :=
      { name := "size", label := "Size", type := .declared .number,
        rules := [⟨.min, .int 5, "Too small"⟩, ⟨.min, .int 3, "Too small"⟩] }
    ∃ (s : Schema) (d : Value) (properties p q : Entries) (v w : Validator),
      Schema.compile false [age, size] = .ok s ∧
      jsonSchema { fields := [age, size] } = .ok d ∧
      d.get? "properties" = some (.record properties) ∧
      (properties.lookup "age" = some (.record p) ∧ s.get? "age" = some v ∧
        (p.lookup "minimum").isSome = true ∧ (¬∃ c ∈ v.checks, c.kind = .min) ∧ ¬v.IsShown p) ∧
      properties.lookup "size" = some (.record q) ∧ s.get? "size" = some w ∧
        q.lookup "minimum" = some (.int 3) ∧ w.domain.Has (.int 4) ∧
        (∃ c ∈ w.checks, c.kind = .min ∧ c.passes (.int 4) = .ok false) ∧ ¬w.IsShown q := by
  intro age size
  have absent : ¬∃ c ∈ ([] : List Check), c.kind = .min := by simp
  refine ⟨_, _, _, _, _, _, _, rfl, rfl, rfl, ⟨rfl, rfl, rfl, absent, fun h => ?_⟩,
    rfl, rfl, rfl, ⟨_, rfl, rfl⟩, ⟨_, List.mem_cons_self, rfl, ?_⟩, fun h => ?_⟩
  · exact absent ((h .min "minimum" rfl).present.1 rfl)
  · decide +kernel
  · obtain ⟨l, hl, hw⟩ := (h .min "minimum" rfl).means (by decide) (.int 3) rfl
    cases hl
    have four : Number.le (.whole 3) (.whole 4) = true := by decide +kernel
    have passed := (hw (.int 4) ⟨_, rfl, rfl⟩).1 four _ List.mem_cons_self rfl
    exact absurd passed (by decide +kernel)

end Form
end Formulary
