/-
  Named things in order: lists of pairs with a name first.

  * `Entries.put` gives a name a thing, in its place if it has one and else at
    the end; `lookup_put` and `keys_put` say what that does to the view by name
    and to the names;
  * `Entries.ofList` leaves one entry for each name of a list with repeats, at
    the first place and with the last thing; `ofList_eq_self` says that a list
    without repeats stays as it is.
-/
namespace Formulary.Entries

variable {α : Type}

/-- Gives a name a thing: in its place if it has one, else at the end. -/
def put (key : String) (value : α) : List (String × α) → List (String × α)
  | [] => [(key, value)]
  | (k, v) :: rest => if k = key then (k, value) :: rest else (k, v) :: put key value rest

/-- One entry for each name of a list with repeats, at the first place and with
    the last thing. -/
def ofList (entries : List (String × α)) : List (String × α) :=
  entries.foldl (fun acc e => put e.1 e.2 acc) []

/-- The names of entries. -/
def keys (entries : List (String × α)) : List String := entries.map (·.1)

theorem isSome_lookup {key : String} {es : List (String × α)} :
    (es.lookup key).isSome = true ↔ key ∈ keys es := by
  rw [List.lookup_isSome_iff, keys, List.mem_map]
  refine exists_congr fun p => and_congr_right fun _ => ?_
  rw [beq_iff_eq, eq_comm]

theorem mem_of_lookup {key : String} {value : α} {es : List (String × α)}
    (h : es.lookup key = some value) : (key, value) ∈ es := by
  obtain ⟨l₁, l₂, rfl, -⟩ := List.lookup_eq_some_iff.1 h
  simp

/-! ## Putting -/

theorem lookup_put (key l : String) (value : α) (es : List (String × α)) :
    (put key value es).lookup l = if l = key then some value else es.lookup l := by
  induction es with
  | nil =>
    by_cases h : l = key
    · simp [put, h]
    · simp [put, List.lookup_cons, beq_eq_false_iff_ne.2 h, h]
  | cons e es ih =>
    obtain ⟨k, v⟩ := e
    by_cases h : l = k
    · subst h
      by_cases hk : l = key <;> simp [put, hk]
    · have hb : (l == k) = false := beq_eq_false_iff_ne.2 h
      by_cases hk : k = key
      · subst hk
        simp [put, List.lookup_cons, hb, h]
      · simp [put, List.lookup_cons, hb, hk, ih]

theorem keys_put (key : String) (value : α) (es : List (String × α)) :
    keys (put key value es) = if key ∈ keys es then keys es else keys es ++ [key] := by
  induction es with
  | nil => simp [put, keys]
  | cons e es ih =>
    obtain ⟨k, v⟩ := e
    by_cases hk : k = key
    · simp [put, keys, hk]
    · have hk' : ¬key = k := fun h => hk h.symm
      simp only [put, hk, if_false]
      simp only [keys, List.map_cons, List.mem_cons, hk', false_or] at ih ⊢
      rw [ih]
      split <;> simp [*]

theorem mem_keys_put {key k : String} {value : α} {es : List (String × α)} :
    k ∈ keys (put key value es) ↔ k = key ∨ k ∈ keys es := by
  rw [keys_put]
  split
  · rename_i hk
    exact ⟨.inr, fun h => h.elim (fun h => h ▸ hk) id⟩
  · simp [or_comm]

/-- What holds of the thing that is put and of those that are there holds of all. -/
theorem forall_put {P : α → Prop} {key : String} {value : α} (hv : P value) :
    ∀ {es : List (String × α)}, (∀ p ∈ es, P p.2) → ∀ p ∈ put key value es, P p.2
  | [], _ => List.forall_mem_singleton.2 hv
  | (k, v) :: es, h => by
    obtain ⟨hk, h⟩ := List.forall_mem_cons.1 h
    rw [put]
    split
    · exact List.forall_mem_cons.2 ⟨hv, h⟩
    · exact List.forall_mem_cons.2 ⟨hk, forall_put hv h⟩

theorem nodup_keys_put {es : List (String × α)} (h : (keys es).Nodup) (key : String)
    (value : α) : (keys (put key value es)).Nodup := by
  rw [keys_put]
  split
  · exact h
  · rename_i hk
    exact List.nodup_append.2 ⟨h, by simp, by
      rintro a ha b hb rfl
      exact hk (by simpa using (List.mem_singleton.1 hb) ▸ ha)⟩

/-- A new name goes to the end. -/
theorem put_of_not_mem {key : String} {es : List (String × α)} (h : key ∉ keys es) (value : α) :
    put key value es = es ++ [(key, value)] := by
  induction es with
  | nil => rfl
  | cons e es ih =>
    obtain ⟨k, v⟩ := e
    simp only [keys, List.map_cons, List.mem_cons, not_or] at h
    have hk : ¬k = key := fun e => h.1 e.symm
    simp [put, hk, ih h.2]

/-! ## Lists with repeats -/

theorem nodup_keys_foldl_put (es : List (String × α)) : ∀ {acc : List (String × α)},
    (keys acc).Nodup → (keys (es.foldl (fun acc e => put e.1 e.2 acc) acc)).Nodup := by
  induction es with
  | nil => exact fun h => h
  | cons e es ih => exact fun h => ih (nodup_keys_put h e.1 e.2)

theorem nodup_keys_ofList (es : List (String × α)) : (keys (ofList es)).Nodup :=
  nodup_keys_foldl_put es (by simp [keys])

theorem mem_keys_ofList {key : String} {es : List (String × α)} :
    key ∈ keys (ofList es) ↔ key ∈ keys es := by
  suffices ∀ acc : List (String × α),
      (key ∈ keys (es.foldl (fun acc e => put e.1 e.2 acc) acc) ↔
        key ∈ keys acc ∨ key ∈ keys es) by
    simpa [ofList, keys] using this []
  induction es with
  | nil => simp [keys]
  | cons e es ih =>
    intro acc
    rw [List.foldl_cons, ih, mem_keys_put]
    simp only [keys, List.map_cons, List.mem_cons]
    rw [or_comm (a := key = e.1), or_assoc]

/-- What holds of the things in both lists holds of those in one put into the
    other. -/
theorem forall_foldl_put {P : α → Prop} {es : List (String × α)} (h : ∀ p ∈ es, P p.2) :
    ∀ {acc : List (String × α)}, (∀ p ∈ acc, P p.2) →
      ∀ p ∈ es.foldl (fun acc e => put e.1 e.2 acc) acc, P p.2 := by
  induction es with
  | nil => exact fun ha => ha
  | cons e es ih =>
    obtain ⟨he, h⟩ := List.forall_mem_cons.1 h
    exact fun ha => ih h (forall_put he ha)

/-- The things in a list without repeats come from the list. -/
theorem forall_ofList {P : α → Prop} {es : List (String × α)} (h : ∀ p ∈ es, P p.2) :
    ∀ p ∈ ofList es, P p.2 :=
  forall_foldl_put h (List.forall_mem_nil _)

/-- A list without repeats stays as it is. -/
theorem ofList_eq_self {es : List (String × α)} (h : (keys es).Nodup) : ofList es = es := by
  suffices ∀ acc : List (String × α), (keys (acc ++ es)).Nodup →
      es.foldl (fun acc e => put e.1 e.2 acc) acc = acc ++ es by
    simpa [ofList] using this [] (by simpa using h)
  clear h
  induction es with
  | nil => simp
  | cons e es ih =>
    intro acc h
    have he : e.1 ∉ keys acc := by
      simp only [keys, List.map_append, List.map_cons] at h
      intro hm
      exact (List.nodup_append.1 h).2.2 e.1 hm e.1 (by simp) rfl
    rw [List.foldl_cons, put_of_not_mem he, ih _ (by simpa using h)]
    simp

end Formulary.Entries
