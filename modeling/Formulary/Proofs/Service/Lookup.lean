/-
  Stores by id, where ids are texts.

  * `Store.cell` is what a store has under an id: the session, and what was
    submitted last;
  * `cell_mount`, `cell_update`, `cell_submit` and `cell_unmount`: what is changed
    under an id is its cell, and no other;
  * `Store.Textual`: the ids of a store are texts, and each session has the id
    that it is found under.
-/
import Formulary.Proofs.Service.Store

namespace Formulary

theorem SessionId.same_text {v : Value} {id : String} :
    same v (.text id) = true ↔ v = .text id := by
  cases v <;> simp [same, number?]

theorem SessionId.same_text_left {v : Value} {id : String} :
    same (.text id) v = true ↔ v = .text id := by
  rw [same_comm, same_text]

theorem SessionId.same_texts {a b : String} : same (.text a) (.text b) = decide (a = b) := by
  simp [same, number?]

/-- Whether a session is found under a text, and has it as its id. -/
def Session.IsTextual (x : Session) : Prop := ∃ id : String, x.key = .text id ∧ x.id = .text id

namespace Store

/-- What a store has under an id: the session, and what was submitted last. -/
def cell (s : Store) (id : String) : Option Session × Option Entries :=
  (s.find? (.text id), s.submission? (.text id))

section
variable {s : Store} {id id' : String} {e : Engine} {x : Session} {data : Entries}

theorem key_of_find? (h : s.find? (.text id) = some x) : x.key = .text id := by
  have hx : SessionId.same x.key (.text id) = true :=
    List.find?_some (p := fun x : Session => SessionId.same x.key (.text id)) h
  exact SessionId.same_text.1 hx

theorem find_text_eq_ok : s.find (.text id) = .ok x ↔ s.find? (.text id) = some x := by
  unfold find
  rw [if_neg (by simp [SessionId.isKey])]
  cases s.find? (.text id) <;> simp

/-! ## Sessions -/

theorem find?_putSession {l : List Session} :
    (putSession (.text id') e l).find? (fun x => SessionId.same x.key (.text id)) =
      if id = id' then some ⟨.text id', .text id', e⟩
      else l.find? fun x => SessionId.same x.key (.text id) := by
  induction l with
  | nil =>
    rw [putSession, List.find?_cons, SessionId.same_texts]
    by_cases h : id = id' <;> simp [h, eq_comm]
  | cons x l ih =>
    rw [putSession, List.find?_cons]
    by_cases hx : SessionId.same x.key (.text id') = true
    · rw [if_pos hx, List.find?_cons, SessionId.same_text.1 hx, SessionId.same_texts]
      by_cases h : id = id' <;> simp [h, eq_comm]
    · rw [if_neg hx, List.find?_cons]
      cases hk : SessionId.same x.key (.text id) with
      | false => exact ih
      | true =>
        have : id ≠ id' := fun h => hx (h ▸ hk)
        simp [this]

theorem find?_mount : (s.mount (.text id') e).find? (.text id) =
    if id = id' then some ⟨.text id', .text id', e⟩ else s.find? (.text id) :=
  find?_putSession

theorem find?_update (hx : x.key = .text id') : (s.update x e).find? (.text id) =
    (s.find? (.text id)).map fun y => if id = id' then { y with engine := e } else y := by
  have hk : ∀ y : Session,
      (if SessionId.same y.key x.key then { y with engine := e } else y).key = y.key := by
    intro y
    split <;> rfl
  have hf : (s.update x e).find? (.text id) = (s.find? (.text id)).map fun y =>
      if SessionId.same y.key x.key then { y with engine := e } else y := by
    unfold find? update
    rw [List.find?_map]
    simp only [Function.comp_def, hk]
  rw [hf]
  refine Option.map_congr fun y hy => ?_
  rw [key_of_find? hy, hx, SessionId.same_texts]
  by_cases h : id = id' <;> simp [h]

/-- What is under an id is dropped, and nothing else. -/
theorem find?_filter_same {α : Type} (key : α → Value) (l : List α) :
    (l.filter fun x => !SessionId.same (key x) (.text id')).find?
        (fun x => SessionId.same (key x) (.text id)) =
      if id = id' then none else l.find? fun x => SessionId.same (key x) (.text id) := by
  rw [List.find?_filter]
  by_cases h : id = id'
  · subst h
    simp
  · rw [if_neg h]
    congr 1
    funext x
    cases hx : SessionId.same (key x) (.text id) with
    | false => simp
    | true =>
      rw [SessionId.same_text.1 hx, SessionId.same_texts]
      simp [h]

theorem find?_unmount : (s.unmount (.text id')).find? (.text id) =
    if id = id' then none else s.find? (.text id) :=
  find?_filter_same Session.key s.sessions

/-! ## Submissions -/

theorem submission?_forget : (s.forget (.text id')).submission? (.text id) =
    if id = id' then none else s.submission? (.text id) := by
  unfold submission? forget
  dsimp only
  rw [find?_filter_same Prod.fst]
  split <;> rfl

theorem submission?_submit : (s.submit (.text id') data).submission? (.text id) =
    if id = id' then some data else s.submission? (.text id) := by
  unfold submission? submit
  dsimp only
  induction s.submissions with
  | nil =>
    rw [putSubmission, List.find?_cons, SessionId.same_texts]
    by_cases h : id = id' <;> simp [h, eq_comm]
  | cons x l ih =>
    rw [putSubmission, List.find?_cons]
    by_cases hx : SessionId.same x.1 (.text id') = true
    · rw [if_pos hx, List.find?_cons, SessionId.same_text.1 hx, SessionId.same_texts]
      by_cases h : id = id' <;> simp [h, eq_comm]
    · rw [if_neg hx, List.find?_cons]
      cases hk : SessionId.same x.1 (.text id) with
      | false => exact ih
      | true =>
        have : id ≠ id' := fun h => hx (h ▸ hk)
        simp [this]

/-! ## Cells -/

theorem cell_mount : (s.mount (.text id') e).cell id =
    if id = id' then (some ⟨.text id', .text id', e⟩, none) else s.cell id := by
  have hs : (s.mount (.text id') e).submission? (.text id) =
      if id = id' then none else s.submission? (.text id) := submission?_forget
  unfold cell
  rw [find?_mount, hs]
  split <;> rfl

theorem cell_update (hx : x.key = .text id') : (s.update x e).cell id =
    if id = id' then ((s.find? (.text id)).map fun y => { y with engine := e },
      s.submission? (.text id)) else s.cell id := by
  have hs : (s.update x e).submission? (.text id) = s.submission? (.text id) := rfl
  unfold cell
  rw [find?_update hx, hs]
  by_cases h : id = id' <;> simp [h]

theorem cell_submit : (s.submit (.text id') data).cell id =
    if id = id' then (s.find? (.text id), some data) else s.cell id := by
  have hf : (s.submit (.text id') data).find? (.text id) = s.find? (.text id) := rfl
  unfold cell
  rw [submission?_submit, hf]
  split <;> rfl

theorem cell_unmount : (s.unmount (.text id')).cell id =
    if id = id' then (none, none) else s.cell id := by
  have hs : (s.unmount (.text id')).submission? (.text id) =
      if id = id' then none else s.submission? (.text id) := submission?_forget
  unfold cell
  rw [find?_unmount, hs]
  split <;> rfl

end

/-! ## Stores whose ids are texts -/

/-- Whether the ids of a store are texts, and each session has the one that it
    is found under. -/
structure Textual (s : Store) : Prop where
  sessions : ∀ x ∈ s.sessions, x.IsTextual
  submissions : ∀ p ∈ s.submissions, ∃ id : String, p.1 = .text id

section
variable {s : Store} {id : String} {e : Engine} {x : Session} {data : Entries}

theorem textual_empty : Textual {} := ⟨by simp, by simp⟩

theorem Textual.found (hs : s.Textual) (h : s.find? (.text id) = some x) :
    x.key = .text id ∧ x.id = .text id := by
  obtain ⟨id', hk, hi⟩ := hs.sessions x (List.mem_of_find?_eq_some h)
  have hid := key_of_find? h
  rw [hk] at hid
  cases hid
  exact ⟨hk, hi⟩

theorem textual_putSession {l : List Session} (h : ∀ x ∈ l, x.IsTextual) :
    ∀ x ∈ putSession (.text id) e l, x.IsTextual := by
  induction l with
  | nil =>
    intro x hx
    rw [List.mem_singleton.1 hx]
    exact ⟨id, rfl, rfl⟩
  | cons y l ih =>
    intro x hx
    rw [putSession] at hx
    split at hx <;> rcases List.mem_cons.1 hx with rfl | hx
    · rename_i hy
      exact ⟨id, SessionId.same_text.1 hy, rfl⟩
    · exact h x (by simp [hx])
    · exact h x (by simp)
    · exact ih (fun z hz => h z (by simp [hz])) x hx

theorem Textual.forget (hs : s.Textual) (id : Value) : (s.forget id).Textual :=
  ⟨hs.sessions, fun p hp => hs.submissions p (List.mem_of_mem_filter hp)⟩

theorem Textual.mount (hs : s.Textual) : (s.mount (.text id) e).Textual :=
  ⟨textual_putSession hs.sessions, (hs.forget (.text id)).submissions⟩

theorem Textual.update (hs : s.Textual) : (s.update x e).Textual := by
  refine ⟨fun y hy => ?_, hs.submissions⟩
  obtain ⟨z, hz, rfl⟩ := List.mem_map.1 hy
  split <;> exact hs.sessions z hz

theorem textual_putSubmission {l : List (Value × Entries)}
    (h : ∀ p ∈ l, ∃ id : String, p.1 = .text id) :
    ∀ p ∈ putSubmission (.text id) data l, ∃ id : String, p.1 = .text id := by
  induction l with
  | nil =>
    intro p hp
    rw [List.mem_singleton.1 hp]
    exact ⟨id, rfl⟩
  | cons q l ih =>
    intro p hp
    rw [putSubmission] at hp
    split at hp <;> rcases List.mem_cons.1 hp with rfl | hp
    · exact h q (by simp)
    · exact h p (by simp [hp])
    · exact h p (by simp)
    · exact ih (fun z hz => h z (by simp [hz])) p hp

theorem Textual.submit (hs : s.Textual) : (s.submit (.text id) data).Textual :=
  ⟨hs.sessions, textual_putSubmission hs.submissions⟩

theorem Textual.unmount (hs : s.Textual) (id : Value) : (s.unmount id).Textual :=
  ⟨fun x hx => hs.sessions x (List.mem_of_mem_filter hx), (hs.forget id).submissions⟩

/-- What is no text is no id. -/
theorem Textual.unmount_eq_self (hs : s.Textual) {v : Value} (hv : ∀ id : String, v ≠ .text id) :
    s.unmount v = s := by
  have hk : ∀ a : Value, (∃ id : String, a = .text id) → SessionId.same a v = false := by
    rintro _ ⟨id, rfl⟩
    rw [Bool.eq_false_iff, Ne, SessionId.same_text_left]
    exact hv id
  have h₁ : (s.sessions.filter fun x => !SessionId.same x.key v) = s.sessions := by
    refine List.filter_eq_self.2 fun x hx => ?_
    obtain ⟨id, hid, -⟩ := hs.sessions x hx
    rw [hk x.key ⟨id, hid⟩]
    rfl
  have h₂ : (s.submissions.filter fun p => !SessionId.same p.1 v) = s.submissions := by
    refine List.filter_eq_self.2 fun p hp => ?_
    rw [hk p.1 (hs.submissions p hp)]
    rfl
  unfold Store.unmount Store.forget
  rw [h₁, h₂]

/-- What is found has a text for its id. -/
theorem Textual.eq_text_of_find (hs : s.Textual) {v : Value} (h : s.find v = .ok x) :
    ∃ id : String, v = .text id ∧ s.find? (.text id) = some x := by
  obtain ⟨hm, hx⟩ := find_eq_ok h
  obtain ⟨id, hk, -⟩ := hs.sessions x hm
  rw [hk, SessionId.same_text_left] at hx
  subst hx
  exact ⟨id, rfl, find_text_eq_ok.1 h⟩

end
end Store
end Formulary
