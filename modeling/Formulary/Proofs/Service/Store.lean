/-
  What calls leave of the forms that are mounted.

  * `Store.Alike` are stores that hold the same forms in the same states, and
    the same data submitted; `alike_mount`, `alike_update` and
    `alike_update_submit` say when a change of a store is none;
  * `Store.Sound`: no two forms are under one id, and each has a schema of
    fields.
-/
import Formulary.Proofs.Engine.Run
import Formulary.Service.Store
import Mathlib.Data.List.Pairwise

namespace Formulary

/-! ## Ids -/

namespace SessionId

theorem number_same_comm (m n : Number) : m.same n = n.same m := Bool.and_comm _ _

theorem number_same_self {m n : Number} (h : m.same n = true) : m.same m = true := by
  have hle : m.le n = true := ((Bool.and_eq_true _ _).mp h).1
  unfold Number.le at hle
  unfold Number.same Number.le
  cases hm : m.place? with
  | none => simp [hm] at hle
  | some p => cases p <;> simp [Place.le]

theorem same_comm (a b : Value) : same a b = same b a := by
  unfold same
  cases number? a <;> cases number? b
  · simp only [eq_comm]
  · rfl
  · rfl
  · exact number_same_comm _ _

/-- What is some id is itself one. -/
theorem same_self {a b : Value} (h : same a b = true) : same a a = true := by
  unfold same at h ⊢
  cases hm : number? a <;> cases hn : number? b <;> simp only [hm, hn] at h ⊢
  · simp
  · cases h
  · cases h
  · exact number_same_self h

end SessionId

namespace Store

/-! ## Stores that are alike -/

/-- Whether stores hold the same forms in the same states, and the same data
    submitted. -/
def Alike (s t : Store) : Prop :=
  s.sessions.map (fun x => (x.key, x.engine.state)) =
      t.sessions.map (fun x => (x.key, x.engine.state)) ∧
    s.submissions = t.submissions

instance (s t : Store) : Decidable (s.Alike t) := inferInstanceAs (Decidable (_ ∧ _))

/-- Whether a form in a state is mounted under an id, with nothing submitted. -/
def Holds (s : Store) (id : Value) (st : State) : Prop :=
  (∃ x, s.find? id = some x ∧ x.engine.state = st) ∧ s.submission? id = none

theorem Alike.refl (s : Store) : s.Alike s := ⟨rfl, rfl⟩

section
variable {s : Store} {id : Value} {e : Engine} {x : Session} {data : Entries}

theorem find_eq_ok (h : s.find id = .ok x) :
    x ∈ s.sessions ∧ SessionId.same x.key id = true := by
  unfold find at h
  split at h
  · cases h
  · split at h
    · rename_i y hy
      cases h
      have hs := List.find?_some (p := fun x : Session => SessionId.same x.key id) hy
      exact ⟨List.mem_of_find?_eq_some hy, hs⟩
    · cases h

theorem map_putSession {l : List Session} :
    (putSession id e l).map (fun x => (x.key, x.engine.state)) =
        l.map (fun x => (x.key, x.engine.state)) ↔
      ∃ x, l.find? (fun x => SessionId.same x.key id) = some x ∧ x.engine.state = e.state := by
  induction l with
  | nil => simp [putSession]
  | cons x l ih =>
    rw [putSession, List.find?_cons]
    cases SessionId.same x.key id with
    | true => simp [eq_comm]
    | false => simpa using ih

theorem filter_submissions {l : List (Value × Entries)} :
    (l.filter fun x => !SessionId.same x.1 id) = l ↔
      l.find? (fun x => SessionId.same x.1 id) = none := by
  rw [List.filter_eq_self, List.find?_eq_none]
  simp

theorem putSubmission_eq_self {l : List (Value × Entries)} : putSubmission id data l = l ↔
    (l.find? fun x => SessionId.same x.1 id).map (·.2) = some data := by
  induction l with
  | nil => simp [putSubmission]
  | cons x l ih =>
    rw [putSubmission, List.find?_cons]
    cases SessionId.same x.1 id with
    | true => simp [Prod.ext_iff, eq_comm]
    | false => simpa using ih

/-- To mount a form changes nothing iff one in the same state was mounted under
    the id, with nothing submitted. -/
theorem alike_mount : (s.mount id e).Alike s ↔ s.Holds id e.state := by
  unfold Alike Holds
  refine and_congr map_putSession ?_
  rw [submission?, Option.map_eq_none_iff]
  exact filter_submissions

end

/-! ## Stores that are sound -/

/-- Whether no two forms are under one id, and each has a schema of fields. -/
structure Sound (s : Store) : Prop where
  distinct : (s.sessions.map (·.key)).Pairwise fun a b => SessionId.same a b = false
  forms : ∀ x ∈ s.sessions, x.engine.Sound

theorem sound_empty : Sound {} := ⟨.nil, by simp⟩

section
variable {s : Store} {id : Value} {e : Engine} {x y : Session} {data : Entries}

theorem Sound.eq_of_same (hs : s.Sound) (hx : x ∈ s.sessions) (hy : y ∈ s.sessions)
    (h : SessionId.same x.key y.key = true) : x = y := by
  by_contra hne
  have : Std.Symm fun a b : Session => SessionId.same a.key b.key = false :=
    ⟨fun a b hab => by rw [SessionId.same_comm, hab]⟩
  have hd := (List.pairwise_map.1 hs.distinct).forall hx hy hne
  simp [hd] at h

theorem map_update (hs : s.Sound) (hx : s.find id = .ok x) :
    (s.update x e).sessions.map (fun x => (x.key, x.engine.state)) =
        s.sessions.map (fun x => (x.key, x.engine.state)) ↔
      e.state = x.engine.state := by
  obtain ⟨hm, hid⟩ := find_eq_ok hx
  unfold update
  rw [List.map_map, List.map_inj_left]
  constructor
  · intro h
    have := h x hm
    simpa [SessionId.same_self hid] using this
  · intro h y hy
    dsimp only [Function.comp]
    split
    · rename_i hsame
      rw [hs.eq_of_same hy hm hsame, h]
    · rfl

/-- To put a form in the place of one changes nothing iff it is in the same
    state. -/
theorem alike_update (hs : s.Sound) (hx : s.find id = .ok x) :
    (s.update x e).Alike s ↔ e.state = x.engine.state :=
  (and_iff_left rfl).trans (map_update hs hx)

theorem alike_update_submit {id' : Value} (hs : s.Sound) (hx : s.find id = .ok x) :
    ((s.update x e).submit id' data).Alike s ↔
      e.state = x.engine.state ∧ s.submission? id' = some data :=
  and_congr (map_update hs hx) putSubmission_eq_self

theorem not_alike_unmount (hx : s.find? id = some x) : ¬ (s.unmount id).Alike s := by
  rintro ⟨h, -⟩
  have hl := congrArg List.length h
  rw [List.length_map, List.length_map] at hl
  have hk : SessionId.same x.key id = true :=
    List.find?_some (p := fun x : Session => SessionId.same x.key id) hx
  have hlt : (s.unmount id).sessions.length < s.sessions.length :=
    List.length_filter_lt_length_iff_exists.2 ⟨x, List.mem_of_find?_eq_some hx, by simp [hk]⟩
  omega

theorem keys_putSession {l : List Session} : (putSession id e l).map (·.key) =
    if l.any (fun x => SessionId.same x.key id) then l.map (·.key) else l.map (·.key) ++ [id] := by
  induction l with
  | nil => rfl
  | cons x l ih =>
    rw [putSession, List.any_cons]
    cases SessionId.same x.key id with
    | true => simp
    | false =>
      simp only [Bool.false_eq_true, if_false, Bool.false_or, List.map_cons, ih]
      split <;> rfl

theorem mem_putSession {l : List Session} (h : y ∈ putSession id e l) : y ∈ l ∨ y.engine = e := by
  induction l with
  | nil => exact .inr (by rw [List.mem_singleton.1 h])
  | cons x l ih =>
    rw [putSession] at h
    split at h <;> rcases List.mem_cons.1 h with rfl | h
    · exact .inr rfl
    · exact .inl (List.mem_cons_of_mem _ h)
    · exact .inl List.mem_cons_self
    · exact (ih h).imp_left (List.mem_cons_of_mem _)

theorem Sound.mount (hs : s.Sound) (he : e.Sound) : (s.mount id e).Sound where
  distinct := by
    have hk : (s.mount id e).sessions = putSession id e s.sessions := rfl
    rw [hk, keys_putSession]
    split
    · exact hs.distinct
    · rename_i hn
      refine List.pairwise_append.2 ⟨hs.distinct, List.pairwise_singleton _ _, fun a ha b hb => ?_⟩
      obtain ⟨x, hx, rfl⟩ := List.mem_map.1 ha
      rw [List.mem_singleton.1 hb]
      simp only [List.any_eq_true, not_exists, not_and, Bool.not_eq_true] at hn
      exact hn x hx
  forms y hy := by
    rcases mem_putSession hy with hy | rfl
    · exact hs.forms y hy
    · exact he

theorem Sound.update (hs : s.Sound) (he : e.Sound) : (s.update x e).Sound where
  distinct := by
    have hk : (s.update x e).sessions.map (·.key) = s.sessions.map (·.key) := by
      unfold Store.update
      rw [List.map_map, List.map_inj_left]
      intro y _
      dsimp only [Function.comp]
      split <;> rfl
    rw [hk]
    exact hs.distinct
  forms y hy := by
    obtain ⟨z, hz, rfl⟩ := List.mem_map.1 hy
    split
    · exact he
    · exact hs.forms z hz

theorem Sound.submit (hs : s.Sound) : (s.submit id data).Sound := ⟨hs.distinct, hs.forms⟩

theorem Sound.unmount (hs : s.Sound) : (s.unmount id).Sound where
  distinct := hs.distinct.sublist (List.filter_sublist.map _)
  forms y hy := hs.forms y (List.mem_of_mem_filter hy)

end

end Store
end Formulary
