/-
  Computations that can fault: when a chain, a map or a pass over a list has a
  result, and when it faults.

  `FaultsOnly` says in what ways a computation can fault.
-/
import Mathlib.Data.List.Forall2

namespace Formulary

variable {ε α β : Type}

section
variable {x : Except ε α} {e : ε}

theorem map_eq_ok {f : α → β} {b : β} : x.map f = .ok b ↔ ∃ a, x = .ok a ∧ f a = b := by
  cases x <;> simp [Except.map]

theorem map_eq_error {f : α → β} : x.map f = .error e ↔ x = .error e := by
  cases x <;> simp [Except.map]

theorem mapError_eq_ok {ε' : Type} {f : ε → ε'} {a : α} :
    x.mapError f = .ok a ↔ x = .ok a := by
  cases x <;> simp [Except.mapError]

theorem mapError_eq_error {ε' : Type} {f : ε → ε'} {e : ε'} :
    x.mapError f = .error e ↔ ∃ e', x = .error e' ∧ f e' = e := by
  cases x <;> simp [Except.mapError]

/-- There is a result or a fault. -/
theorem exists_ok_iff : (∃ a, x = .ok a) ↔ ¬∃ e, x = .error e := by
  cases x <;> simp

theorem bind_eq_ok {f : α → Except ε β} {b : β} :
    (x >>= f) = .ok b ↔ ∃ a, x = .ok a ∧ f a = .ok b := by
  cases x <;> simp [bind, Except.bind]

theorem bind_eq_error {f : α → Except ε β} :
    (x >>= f) = .error e ↔ x = .error e ∨ ∃ a, x = .ok a ∧ f a = .error e := by
  cases x <;> simp [bind, Except.bind]

end

/-! ## Lists -/

theorem forall₂_mem_left {R : α → β → Prop} {l : List α} {l' : List β}
    (h : List.Forall₂ R l l') : ∀ a ∈ l, ∃ b ∈ l', R a b := by
  induction h with
  | nil => simp
  | cons hb _ ih =>
    intro a ha
    rcases List.mem_cons.1 ha with rfl | ha
    · exact ⟨_, by simp, hb⟩
    · obtain ⟨b, hm, hR⟩ := ih a ha
      exact ⟨b, by simp [hm], hR⟩

/-- The first items that pass are related, or none passes on either side. -/
theorem rel_find?_of_forall₂ {R : α → β → Prop} {p : α → Bool} {q : β → Bool} {l : List α}
    {l' : List β} (h : List.Forall₂ R l l') (hq : ∀ a b, R a b → q b = p a) :
    Option.Rel R (l.find? p) (l'.find? q) := by
  induction h with
  | nil => exact .none
  | @cons c d l l' hR _ ih =>
    rw [List.find?_cons, List.find?_cons, hq c d hR]
    cases p c with
    | true => exact .some hR
    | false => exact ih

/-- The first item that passes has made the first that passes. -/
theorem find?_of_forall₂ {R : α → β → Prop} {p : α → Bool} {q : β → Bool} {l : List α}
    {l' : List β} (h : List.Forall₂ R l l') (hq : ∀ a b, R a b → q b = p a) {a : α}
    (ha : l.find? p = some a) : ∃ b, l'.find? q = some b ∧ R a b := by
  have hr := rel_find?_of_forall₂ h hq
  rw [ha] at hr
  generalize l'.find? q = b? at hr
  cases hr with
  | some hab => exact ⟨_, rfl, hab⟩

theorem map_eq_of_forall₂ {γ : Type} {f : α → γ} {g : β → γ} {l : List α} {l' : List β}
    (h : List.Forall₂ (fun a b => g b = f a) l l') : l'.map g = l.map f := by
  induction h with
  | nil => rfl
  | cons hb _ ih => rw [List.map_cons, List.map_cons, hb, ih]

/-- A pass over a list gives what comes of each item. -/
theorem mapM_eq_ok {f : α → Except ε β} {l : List α} :
    ∀ {bs : List β}, l.mapM f = .ok bs ↔ List.Forall₂ (fun a b => f a = .ok b) l bs := by
  induction l with
  | nil => intro bs; simp [pure, Except.pure, eq_comm]
  | cons a l ih =>
    intro bs
    simp only [List.mapM_cons, bind_eq_ok, ih, List.forall₂_cons_left_iff]
    refine exists_congr fun b => ?_
    constructor
    · rintro ⟨hb, bs', hbs, h⟩
      exact ⟨bs', hb, hbs, (Except.ok.inj h).symm⟩
    · rintro ⟨bs', hb, hbs, rfl⟩
      exact ⟨hb, bs', hbs, rfl⟩

/-- Where what comes of each item is changed in one way, so is what a pass gives. -/
theorem mapM_eq_map {f f' : α → Except ε β} {g : β → β} {l : List α}
    (h : ∀ a ∈ l, f' a = (f a).map g) : l.mapM f' = (l.mapM f).map (List.map g) := by
  induction l with
  | nil => rfl
  | cons a l ih =>
    rw [List.mapM_cons, List.mapM_cons, h a List.mem_cons_self,
      ih fun b hb => h b (List.mem_cons_of_mem a hb)]
    cases f a with
    | error e => rfl
    | ok b => cases l.mapM f <;> rfl

/-- A pass over a list faults iff it does at some item. -/
theorem mapM_faults {f : α → Except ε β} {l : List α} :
    (∃ e, l.mapM f = .error e) ↔ ∃ a ∈ l, ∃ e, f a = .error e := by
  induction l with
  | nil => simp [pure, Except.pure]
  | cons a l ih =>
    rw [List.mapM_cons]
    cases ha : f a with
    | error e => simp [bind, Except.bind, ha]
    | ok b =>
      simp only [List.mem_cons, exists_eq_or_imp, ha, reduceCtorEq, exists_false, false_or, ← ih]
      refine exists_congr fun e => ?_
      rw [bind_eq_error]
      simp [bind_eq_error, pure, Except.pure]

/-- What a pass keeps, if it comes through: at each item there is an outcome, and those
    that are something are left. -/
theorem filterMapM_eq_ok {f : α → Except ε (Option β)} :
    ∀ {l : List α} {bs : List β}, l.filterMapM f = .ok bs ↔
      ∃ os, List.Forall₂ (fun a o => f a = .ok o) l os ∧ bs = os.filterMap id
  | [], bs => by simp [pure, Except.pure, eq_comm]
  | a :: l, bs => by
    rw [List.filterMapM_cons, bind_eq_ok]
    constructor
    · rintro ⟨o, ho, h⟩
      cases o with
      | none =>
        obtain ⟨os, hos, rfl⟩ := filterMapM_eq_ok.1 h
        exact ⟨none :: os, .cons ho hos, rfl⟩
      | some b =>
        obtain ⟨bs', hbs, h⟩ := bind_eq_ok.1 h
        cases h
        obtain ⟨os, hos, rfl⟩ := filterMapM_eq_ok.1 hbs
        exact ⟨some b :: os, .cons ho hos, rfl⟩
    · rintro ⟨_, _ | ⟨ho, hos⟩, rfl⟩
      rename_i o os
      refine ⟨o, ho, ?_⟩
      cases o with
      | none => exact filterMapM_eq_ok.2 ⟨os, hos, rfl⟩
      | some b => exact bind_eq_ok.2 ⟨_, filterMapM_eq_ok.2 ⟨os, hos, rfl⟩, rfl⟩

theorem mem_of_filterMapM {f : α → Except ε (Option β)} {l : List α} {bs : List β} {b : β}
    (h : l.filterMapM f = .ok bs) (hb : b ∈ bs) : ∃ a ∈ l, f a = .ok (some b) := by
  obtain ⟨os, hos, rfl⟩ := filterMapM_eq_ok.1 h
  clear h
  induction hos with
  | nil => cases hb
  | @cons a o l os ho _ ih =>
    rcases List.mem_filterMap.1 hb with ⟨o', ho', rfl⟩
    rcases List.mem_cons.1 ho' with rfl | ho'
    · exact ⟨a, by simp, ho⟩
    · obtain ⟨a', ha', h⟩ := ih (List.mem_filterMap.2 ⟨_, ho', rfl⟩)
      exact ⟨a', by simp [ha'], h⟩

/-- What a pass gives is what comes of some item. -/
theorem mem_filterMapM {f : α → Except ε (Option β)} {l : List α} {bs : List β}
    (h : l.filterMapM f = .ok bs) {b : β} : b ∈ bs ↔ ∃ a ∈ l, f a = .ok (some b) := by
  refine ⟨mem_of_filterMapM h, ?_⟩
  rintro ⟨a, ha, hb⟩
  obtain ⟨os, hos, rfl⟩ := filterMapM_eq_ok.1 h
  obtain ⟨o, ho, hao⟩ := forall₂_mem_left hos a ha
  obtain rfl : o = some b := Except.ok.inj (hao.symm.trans hb)
  exact List.mem_filterMap.2 ⟨_, ho, rfl⟩

/-- Where a pass keeps just the items of a kind, it gives one thing for each of
    them. -/
theorem forall₂_filter_of_filterMapM {f : α → Except ε (Option β)} {keep : α → Bool}
    {l : List α} {bs : List β} (h : l.filterMapM f = .ok bs)
    (hk : ∀ a ∈ l, f a = .ok none ↔ keep a = false) :
    List.Forall₂ (fun a b => f a = .ok (some b)) (l.filter keep) bs := by
  obtain ⟨os, hos, rfl⟩ := filterMapM_eq_ok.1 h
  clear h
  induction hos with
  | nil => exact .nil
  | @cons a o l os ho _ ih =>
    have ih := ih fun b hb => hk b (List.mem_cons_of_mem a hb)
    cases o with
    | none =>
      have hd := (hk a List.mem_cons_self).1 ho
      rwa [List.filter_cons_of_neg (by simp [hd])]
    | some b =>
      have hd : keep a = true := by
        by_contra hd
        have hn := (hk a List.mem_cons_self).2 (Bool.eq_false_iff.2 hd)
        rw [ho] at hn
        cases hn
      rw [List.filter_cons_of_pos hd]
      exact .cons ho ih

/-- A pass gives the same without items that it keeps nothing of. -/
theorem filterMapM_filter {f : α → Except ε (Option β)} {keep : α → Bool}
    {l : List α} {bs : List β} (h : l.filterMapM f = .ok bs)
    (hk : ∀ a ∈ l, ∀ o, keep a = false → f a = .ok o → o = none) :
    (l.filter keep).filterMapM f = .ok bs := by
  obtain ⟨os, hos, rfl⟩ := filterMapM_eq_ok.1 h
  clear h
  induction hos with
  | nil => rfl
  | @cons a o l os ho _ ih =>
    have ih := ih fun b hb => hk b (List.mem_cons_of_mem a hb)
    cases hka : keep a with
    | false =>
      obtain rfl := hk a List.mem_cons_self o hka ho
      rw [List.filter_cons_of_neg (by simp [hka])]
      exact ih
    | true =>
      obtain ⟨os', hos', he⟩ := filterMapM_eq_ok.1 ih
      rw [List.filter_cons_of_pos hka]
      refine filterMapM_eq_ok.2 ⟨o :: os', .cons ho hos', ?_⟩
      rw [List.filterMap_cons, List.filterMap_cons, he]

/-- A pass over what items are made into is a pass over the items. -/
theorem filterMapM_map {γ : Type} (g : γ → α) (f : α → Except ε (Option β)) (l : List γ) :
    (l.map g).filterMapM f = l.filterMapM fun c => f (g c) := by
  induction l with
  | nil => rfl
  | cons c l ih => rw [List.map_cons, List.filterMapM_cons, List.filterMapM_cons, ih]

theorem filterMapM_faults {f : α → Except ε (Option β)} {l : List α} :
    (∃ e, l.filterMapM f = .error e) ↔ ∃ a ∈ l, ∃ e, f a = .error e := by
  induction l with
  | nil => simp [pure, Except.pure]
  | cons a l ih =>
    rw [List.filterMapM_cons]
    cases ha : f a with
    | error e => simp [bind, Except.bind, ha]
    | ok o =>
      simp only [List.mem_cons, exists_eq_or_imp, ha, reduceCtorEq, exists_false, false_or, ← ih]
      refine exists_congr fun e => ?_
      cases o with
      | none => rfl
      | some b => simp [bind_eq_error, pure, Except.pure]

/-! ## Ways to fault -/

/-- Whether a computation, if it faults, faults in some way only. -/
def FaultsOnly (P : ε → Prop) (x : Except ε α) : Prop := ∀ e, x = .error e → P e

namespace FaultsOnly
variable {P Q : ε → Prop} {x : Except ε α}

theorem ok (a : α) : FaultsOnly P (.ok a : Except ε α) := by
  intro e h
  cases h

theorem error {e : ε} (h : P e) : FaultsOnly P (.error e : Except ε α) := by
  intro e' he
  cases he
  exact h

theorem mono (hx : FaultsOnly P x) (h : ∀ e, P e → Q e) : FaultsOnly Q x :=
  fun e he => h e (hx e he)

theorem map {f : α → β} (hx : FaultsOnly P x) : FaultsOnly P (x.map f) :=
  fun e he => hx e (map_eq_error.1 he)

theorem bind {f : α → Except ε β} (hx : FaultsOnly P x)
    (hf : ∀ a, x = .ok a → FaultsOnly P (f a)) : FaultsOnly P (x >>= f) := by
  intro e he
  rcases bind_eq_error.1 he with he | ⟨a, ha, he⟩
  · exact hx e he
  · exact hf a ha e he

theorem mapM {f : α → Except ε β} : ∀ {l : List α}, (∀ a ∈ l, FaultsOnly P (f a)) →
    FaultsOnly P (l.mapM f)
  | [], _ => .ok []
  | a :: l, h => by
    rw [List.mapM_cons]
    exact (h a List.mem_cons_self).bind fun b _ =>
      (mapM fun a' ha => h a' (List.mem_cons_of_mem a ha)).bind fun bs _ => .ok _

theorem filterMapM {f : α → Except ε (Option β)} : ∀ {l : List α},
    (∀ a ∈ l, FaultsOnly P (f a)) → FaultsOnly P (l.filterMapM f)
  | [], _ => .ok []
  | a :: l, h => by
    have hl : FaultsOnly P (l.filterMapM f) :=
      filterMapM fun a' ha => h a' (List.mem_cons_of_mem a ha)
    rw [List.filterMapM_cons]
    refine (h a List.mem_cons_self).bind fun b? _ => ?_
    cases b? with
    | none => exact hl
    | some b => exact hl.bind fun bs _ => .ok _

theorem foldlM {f : β → α → Except ε β} (h : ∀ b a, FaultsOnly P (f b a)) :
    ∀ (l : List α) (b : β), FaultsOnly P (l.foldlM f b)
  | [], b => .ok b
  | a :: l, b => (h b a).bind fun b _ => foldlM h l b

end FaultsOnly

end Formulary
