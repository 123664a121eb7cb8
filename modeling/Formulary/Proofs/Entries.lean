/-
  Names that come more than once, and names that come once.

  * `keys_ofList` and `lookup_ofList`: of a list with repeats each name is left
    at its first place, with its last thing;
  * `lookup_eq_some_iff`: where a name comes once, looking it up finds its
    entry.
-/
import Formulary.Entries
import Mathlib.Data.List.Induction

namespace Formulary.Entries

variable {α : Type} {es : List (String × α)} {key : String} {value : α}

/-! ## Names with repeats -/

theorem ofList_concat (es : List (String × α)) (e : String × α) :
    ofList (es ++ [e]) = put e.1 e.2 (ofList es) := by
  rw [ofList, List.foldl_append]
  rfl

/-- The names that are left stand in the order of their first entries. -/
theorem keys_ofList (es : List (String × α)) : keys (ofList es) = (keys es).eraseDups := by
  induction es using List.reverseRecOn with
  | nil => rfl
  | append_singleton es e ih =>
    have hk : keys (es ++ [e]) = keys es ++ [e.1] := List.map_append
    rw [ofList_concat, keys_put, ih, hk, List.eraseDups_append]
    by_cases he : e.1 ∈ keys es <;> simp [he, List.cons_removeAll, List.eraseDups_cons]

/-- What is put one by one replaces what there is. -/
theorem lookup_foldl_put (es es' : List (String × α)) (key : String) :
    (es'.foldl (fun acc e => put e.1 e.2 acc) es).lookup key =
      (es'.reverse.lookup key).or (es.lookup key) := by
  induction es' using List.reverseRecOn with
  | nil => rfl
  | append_singleton es' e ih =>
    obtain ⟨k, v⟩ := e
    rw [List.foldl_append, List.foldl_cons, List.foldl_nil, lookup_put, ih, List.reverse_append,
      List.reverse_singleton, List.singleton_append, List.lookup_cons]
    by_cases hk : key = k
    · simp [hk]
    · simp [hk, beq_eq_false_iff_ne.2 hk]

/-- Each name is left with the thing of its last entry. -/
theorem lookup_ofList (es : List (String × α)) (key : String) :
    (ofList es).lookup key = es.reverse.lookup key :=
  (lookup_foldl_put [] es key).trans Option.or_none

/-! ## Names without repeats -/

theorem lookup_eq_some_iff (h : (keys es).Nodup) :
    es.lookup key = some value ↔ (key, value) ∈ es := by
  refine ⟨mem_of_lookup, fun hm => ?_⟩
  induction es with
  | nil => cases hm
  | cons e es ih =>
    obtain ⟨k, v⟩ := e
    obtain ⟨hk, hn⟩ := List.nodup_cons.1 h
    rcases List.mem_cons.1 hm with he | he
    · cases he
      simp
    · have hne : key ≠ k := fun e => hk (List.mem_map.2 ⟨(key, value), he, e⟩)
      rw [List.lookup_cons, beq_eq_false_iff_ne.2 hne]
      exact ih hn he

/-- Entries are told by their names and what these are looked up as. -/
theorem eq_map_keys (h : (keys es).Nodup) (absent : α) :
    es = (keys es).map fun k => (k, (es.lookup k).getD absent) := by
  rw [keys, List.map_map]
  refine (List.map_id es).symm.trans (List.map_congr_left fun e he => ?_)
  rw [Function.comp, (lookup_eq_some_iff h).2 he]
  rfl

/-- Where entries have some of the names in their order, looking all names up
    gives them back. -/
theorem filter_lookup {names : List String} (hn : names.Nodup) :
    ∀ {es : List (String × α)}, (keys es).Sublist names →
      (names.map fun n => (n, es.lookup n)).filter (·.2.isSome) =
        es.map fun p => (p.1, some p.2) := by
  induction names with
  | nil =>
    intro es hs
    obtain rfl : es = [] := List.map_eq_nil_iff.1 (List.sublist_nil.1 hs)
    rfl
  | cons n names ih =>
    intro es hs
    obtain ⟨hnot, hnodup⟩ := List.nodup_cons.1 hn
    rw [List.map_cons]
    rcases List.sublist_cons_iff.1 hs with hs | ⟨ks, hk, hs⟩
    · have hl : (es.lookup n).isSome = false := by
        rw [Bool.eq_false_iff]
        exact fun h => hnot (hs.subset (isSome_lookup.1 h))
      rw [List.filter_cons_of_neg (by simp [hl])]
      exact ih hnodup hs
    · cases es with
      | nil => cases hk
      | cons p es =>
        obtain ⟨k, v⟩ := p
        obtain ⟨rfl, rfl⟩ := List.cons.inj hk
        have tail : (names.map fun m => (m, ((k, v) :: es).lookup m)) =
            names.map fun m => (m, es.lookup m) := by
          refine List.map_congr_left fun m hm => ?_
          have hne : m ≠ k := fun h => hnot (h ▸ hm)
          rw [List.lookup_cons, beq_eq_false_iff_ne.2 hne]
        rw [tail, List.filter_cons_of_pos (by simp), ih hnodup hs, List.lookup_cons_self,
          List.map_cons]

/-- What is made of some names is looked up among them. -/
theorem lookup_filterMap (g : String → Option α) (names : List String) :
    (names.filterMap fun n => (g n).map (n, ·)).lookup key =
      if key ∈ names then g key else none := by
  induction names with
  | nil => rfl
  | cons n names ih =>
    by_cases hk : key = n
    · subst hk
      cases hg : g key with
      | none => simp [hg, ih]
      | some a => simp [hg]
    · cases hg : g n with
      | none => simp [hg, ih, hk]
      | some a => simp [hg, ih, hk, List.lookup_cons, beq_eq_false_iff_ne.2 hk]

end Formulary.Entries
