/-
  Values that are read, and values as they stand in JSON.

  * `Json.Inherited` are the properties that a value has if its parts have them;
    `Json.Inherited.of_read` says that what is read has such a property;
  * `Value.Tidy` are the values whose records have each key once, as what is
    read does: `Json.tidy_of_read`;
  * `Value.IsPlain` are the values without dates;
  * `Json.nesting_of_read`: what is read is nested no deeper than it may be, and
    `Json.read_brackets`: a text that opens more arrays is not read.
-/
import Formulary.Proofs.Fallible
import Formulary.Service

namespace Formulary

/-! ## Values as they stand in JSON -/

theorem Value.asJsonItems_eq_map (finite : Bool) (vs : List Value) :
    asJsonItems finite vs = vs.map (asJson finite) := by
  induction vs with
  | nil => rfl
  | cons v vs ih => rw [asJsonItems, ih, List.map_cons]

theorem Value.asJsonEntries_eq_map (finite : Bool) (es : Entries) :
    asJsonEntries finite es = es.map fun p => (p.1, p.2.asJson finite) := by
  induction es with
  | nil => rfl
  | cons e es ih => rw [asJsonEntries, ih, List.map_cons]

theorem Value.keys_asJsonEntries (finite : Bool) (es : Entries) :
    Entries.keys (asJsonEntries finite es) = Entries.keys es := by
  rw [asJsonEntries_eq_map, Entries.keys, List.map_map]
  rfl

/-! ## Values with distinct keys -/

mutual

/-- Whether each record in a value has each of its keys once. -/
def Value.Tidy : Value → Prop
  | .list vs => TidyItems vs
  | .record es => (Entries.keys es).Nodup ∧ TidyEntries es
  | _ => True

def Value.TidyItems : List Value → Prop
  | [] => True
  | v :: vs => v.Tidy ∧ TidyItems vs

def Value.TidyEntries : List (String × Value) → Prop
  | [] => True
  | (_, v) :: es => v.Tidy ∧ TidyEntries es

end

theorem Value.tidy_list {vs : List Value} : (list vs).Tidy ↔ ∀ v ∈ vs, v.Tidy := by
  rw [Tidy]
  induction vs with
  | nil => simp [TidyItems]
  | cons v vs ih => simp [TidyItems, ih]

theorem Value.tidy_record {es : Entries} :
    (record es).Tidy ↔ (Entries.keys es).Nodup ∧ ∀ p ∈ es, p.2.Tidy := by
  have h : TidyEntries es ↔ ∀ p ∈ es, p.2.Tidy := by
    induction es with
    | nil => simp [TidyEntries]
    | cons p es ih => simp [TidyEntries, ih]
  rw [Tidy, h]

/-! ## Values without dates -/

mutual

/-- Whether there is no date in a value. -/
def Value.IsPlain : Value → Prop
  | .date _ => False
  | .list vs => IsPlainItems vs
  | .record es => IsPlainEntries es
  | _ => True

def Value.IsPlainItems : List Value → Prop
  | [] => True
  | v :: vs => v.IsPlain ∧ IsPlainItems vs

def Value.IsPlainEntries : List (String × Value) → Prop
  | [] => True
  | (_, v) :: es => v.IsPlain ∧ IsPlainEntries es

end

theorem Value.isPlain_list {vs : List Value} : (list vs).IsPlain ↔ ∀ v ∈ vs, v.IsPlain := by
  rw [IsPlain]
  induction vs with
  | nil => simp [IsPlainItems]
  | cons v vs ih => simp [IsPlainItems, ih]

theorem Value.isPlain_record {es : Entries} : (record es).IsPlain ↔ ∀ p ∈ es, p.2.IsPlain := by
  rw [IsPlain]
  induction es with
  | nil => simp [IsPlainEntries]
  | cons p es ih => simp [IsPlainEntries, ih]

mutual

/-- A value without dates stands in JSON as it is. -/
theorem Value.asJson_plain : ∀ {v : Value}, v.IsPlain → v.asJson false = v
  | .null, _ | .bool _, _ | .text _, _ | .number (.whole _), _ => rfl
  | .number (.real x), _ => by cases x <;> rfl
  | .date _, h => h.elim
  | .list _, h => congrArg list (asJsonItems_plain h)
  | .record _, h => congrArg record (asJsonEntries_plain h)

theorem Value.asJsonItems_plain : ∀ {vs : List Value}, IsPlainItems vs → asJsonItems false vs = vs
  | [], _ => rfl
  | _ :: _, h => congrArg₂ _ (asJson_plain h.1) (asJsonItems_plain h.2)

theorem Value.asJsonEntries_plain : ∀ {es : Entries},
    IsPlainEntries es → asJsonEntries false es = es
  | [], _ => rfl
  | (_, _) :: _, h => by
    rw [asJsonEntries, asJson_plain h.1, asJsonEntries_plain h.2]

end

/-! ## Reading -/

namespace Json

/-- Whether a property of values, given the room for them, is inherited from their
    parts, for which there is less, and the plain ones that are read have it. -/
structure Inherited (limit : Nat) (P : Nat → Value → Prop) : Prop where
  null {room : Nat} : P room .null
  bool {room : Nat} (b : Bool) : P room (.bool b)
  text {room : Nat} (s : String) : P room (.text s)
  nan {room : Nat} : P room (.real .nan)
  infinity {room : Nat} : P room (.real (.infinite false))
  number {room : Nat} {s rest : List Char} {n : Number} :
    Json.number limit s = .ok (n, rest) → P room (.number n)
  list {room : Nat} {vs : List Value} : (∀ v ∈ vs, P room v) → P (room + 1) (.list vs)
  record {room : Nat} {es : Entries} :
    (∀ p ∈ es, P room p.2) → P (room + 1) (.record (Entries.ofList es))

namespace Inherited
variable {limit : Nat} {P : Nat → Value → Prop}

mutual

theorem of_value (hP : Inherited limit P) {s rest : List Char} {v : Value} :
    ∀ {fuel room : Nat}, value limit room fuel s = .ok (v, rest) → P room v
  | 0, _, h => by rw [value] at h; cases h
  | fuel + 1, _, h => by
    rw [value.eq_def] at h
    dsimp only at h
    split at h
    · obtain ⟨p, -, hp⟩ := map_eq_ok.1 h
      cases hp
      exact hP.text p.1
    · cases h
      exact hP.null
    · cases h
      exact hP.bool true
    · cases h
      exact hP.bool false
    · cases h
      exact hP.nan
    · cases h
      exact hP.infinity
    -- an array
    · split at h
      · cases h
      split at h
      · cases h
        exact hP.list (by simp)
      · obtain ⟨p, hp, he⟩ := map_eq_ok.1 h
        cases he
        exact hP.list (of_items hP hp)
    -- an object
    · split at h
      · cases h
      split at h
      · cases h
        exact hP.record (List.forall_mem_nil _)
      · obtain ⟨p, hp, he⟩ := map_eq_ok.1 h
        cases he
        exact hP.record (of_entries hP hp)
    · obtain ⟨p, hp, he⟩ := map_eq_ok.1 h
      cases he
      exact hP.number hp

theorem of_items (hP : Inherited limit P) {s rest : List Char} {vs : List Value} :
    ∀ {fuel room : Nat}, items limit room fuel s = .ok (vs, rest) → ∀ v ∈ vs, P room v
  | 0, _, h => by rw [items] at h; cases h
  | fuel + 1, _, h => by
    rw [items, bind_eq_ok] at h
    obtain ⟨⟨v, after⟩, hv, h⟩ := h
    have hv := of_value hP hv
    dsimp only at h
    split at h
    · cases h
      simpa using hv
    · obtain ⟨q, hq, h⟩ := bind_eq_ok.1 h
      cases h
      exact List.forall_mem_cons.2 ⟨hv, of_items hP hq⟩
    · cases h

theorem of_entries (hP : Inherited limit P) {s rest : List Char} {es : Entries} :
    ∀ {fuel room : Nat}, entries limit room fuel s = .ok (es, rest) → ∀ p ∈ es, P room p.2
  | 0, _, h => by rw [entries] at h; cases h
  | fuel + 1, _, h => by
    rw [entries.eq_def] at h
    dsimp only at h
    split at h
    · obtain ⟨⟨key, after⟩, -, h⟩ := bind_eq_ok.1 h
      dsimp only at h
      split at h
      · obtain ⟨⟨v, after⟩, hv, h⟩ := bind_eq_ok.1 h
        have hv := of_value hP hv
        dsimp only at h
        split at h
        · cases h
          simpa using hv
        · obtain ⟨q, hq, h⟩ := bind_eq_ok.1 h
          cases h
          exact List.forall_mem_cons.2 ⟨hv, of_entries hP hq⟩
        · cases h
      · cases h
    · cases h

end

/-- **What is read has each inherited property.** -/
theorem of_read (hP : Inherited maxIntegerDigits P) {s : String} {v : Value}
    (h : read s = .ok v) : P Value.maxNesting v := by
  have hd := mapError_eq_ok.1 h
  unfold document at hd
  extract_lets whole at hd
  have hw : ∀ u, whole u = .ok v → P Value.maxNesting v := by
    intro u hu
    obtain ⟨⟨v', rest⟩, hv, hu⟩ := bind_eq_ok.1 hu
    have hv := of_value hP hv
    dsimp only at hu
    split at hu
    · cases hu
      exact hv
    · cases hu
  split at hd
  · split at hd
    · cases hd
    · exact hw () hd
  · exact hw () hd

end Inherited

/-- What is read has each key of a record once. -/
theorem tidy_of_read {s : String} {v : Value} (h : read s = .ok v) : v.Tidy := by
  refine Inherited.of_read (P := fun _ => Value.Tidy) ?_ h
  exact {
    null := trivial
    bool := fun _ => trivial
    text := fun _ => trivial
    nan := trivial
    infinity := trivial
    number := fun _ => trivial
    list := Value.tidy_list.2
    record := fun h =>
      Value.tidy_record.2 ⟨Entries.nodup_keys_ofList _, Entries.forall_ofList h⟩ }

/-! ## Nesting -/

/-- **What is read is nested no deeper than it may be.** -/
theorem nesting_of_read {s : String} {v : Value} (h : read s = .ok v) :
    v.nesting ≤ Value.maxNesting := by
  refine Inherited.of_read (P := fun room v => v.nesting ≤ room) ?_ h
  exact {
    null := Nat.zero_le _
    bool := fun _ => Nat.zero_le _
    text := fun _ => Nat.zero_le _
    nan := Nat.zero_le _
    infinity := Nat.zero_le _
    number := fun _ => Nat.zero_le _
    list := Value.levels_list_le.2
    record := fun {room _} h =>
      Value.levels_record_le.2 (Entries.forall_ofList (P := fun v : Value => v.nesting ≤ room) h) }

/-- A text that opens arrays one in the other opens one. -/
theorem exists_cons_brackets (room : Nat) (rest : List Char) :
    ∃ cs, List.replicate room '[' ++ '[' :: rest = '[' :: cs := by
  cases room with
  | zero => exact ⟨rest, rfl⟩
  | succ room => exact ⟨_, rfl⟩

/-- Where there is no room for an array, the text from its bracket on is left. -/
theorem value_brackets (limit : Nat) (rest : List Char) : ∀ (room fuel : Nat), 2 * room < fuel →
    value limit room fuel (List.replicate room '[' ++ '[' :: rest) =
      .error (.nestedTooDeep, '[' :: rest)
  | 0, fuel + 1, _ => rfl
  | room + 1, fuel + 2, h => by
    have ih := value_brackets limit rest room fuel (by omega)
    obtain ⟨cs, hcs⟩ := exists_cons_brackets room rest
    rw [hcs] at ih
    rw [List.replicate_succ, List.cons_append, hcs]
    change (items limit room (fuel + 1) ('[' :: cs)).map _ = _
    rw [items, ih]
    rfl

theorem document_brackets (limit room : Nat) (rest : List Char) :
    document limit room (List.replicate room '[' ++ '[' :: rest) =
      .error (.nestedTooDeep, '[' :: rest) := by
  have hvalue := value_brackets limit rest room
    (2 * (List.replicate room '[' ++ '[' :: rest).length + 2) (by simp; omega)
  obtain ⟨cs, hcs⟩ := exists_cons_brackets room rest
  rw [hcs] at hvalue ⊢
  change (value limit room (2 * ('[' :: cs).length + 2) ('[' :: cs) >>= _) = _
  rw [hvalue]
  rfl

/-- **A text that opens more arrays than may be nested is not read.** -/
theorem read_brackets {n : Nat} (h : Value.maxNesting < n) :
    ∃ place, read (String.ofList (List.replicate n '[')) = .error ⟨.nestedTooDeep, place⟩ := by
  obtain ⟨k, rfl⟩ := Nat.exists_eq_add_of_lt h
  rw [Nat.add_assoc, ← List.replicate_append_replicate, List.replicate_succ, read, readWithin,
    String.toList_ofList, document_brackets]
  exact ⟨_, rfl⟩

end Json
end Formulary
