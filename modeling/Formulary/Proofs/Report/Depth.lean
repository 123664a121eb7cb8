/-
  How deep the values in a result are.

  A result is written unless a value in it is too deep.  What a form hands on as
  data holds no other values, so a value that is too deep has been refused.

  * `Result.nesting_of_write`: what is written is not nested too deeply to be read;
  * `Schema.taken_of_mem`: what stands in the data is what a field has taken;
  * `Schema.received_of_mem`: what is refused is what was given;
  * `Schema.shallow_iff`: a result can be written iff none of the values that it
    refuses is too deep.
-/
import Formulary.Proofs.Data
import Formulary.Report

namespace Formulary

/-! ## Nesting -/

namespace Result
variable {r : Result}

/-- A result is nested three deeper than the values in it. -/
theorem nesting_toValue {n : Nat} (h : ∀ v ∈ r.values, v.nesting ≤ n) :
    r.toValue.nesting ≤ n + 3 := by
  rw [values, List.forall_mem_append, List.forall_mem_map, List.forall_mem_map] at h
  obtain ⟨herrors, hdata⟩ := h
  refine Value.levels_record_le.2 ?_
  simp only [List.forall_mem_cons]
  refine ⟨Nat.zero_le _, ?errors, ?data, List.forall_mem_nil _⟩
  case errors =>
    refine Value.levels_list_le.2 (List.forall_mem_map.2 fun e he => Value.levels_record_le.2 ?_)
    simp only [List.forall_mem_cons]
    exact ⟨Nat.zero_le _, Nat.zero_le _, Nat.zero_le _, herrors e he, List.forall_mem_nil _⟩
  case data =>
    cases hd : r.data with
    | none => exact Nat.zero_le _
    | some data =>
      rw [hd] at hdata
      exact Value.levels_record_le.2 fun p hp => Nat.le_succ_of_le (hdata p hp)

/-- What is written is not nested too deeply to be read. -/
theorem nesting_of_write {text : String} (h : r.write = .ok text) :
    r.toValue.nesting ≤ Value.maxNesting := by
  have hn := nesting_toValue fun v hv =>
    Nat.le_trans v.nesting_le_depth ((Json.writeGuarded_eq_ok.1 h).1 v hv)
  exact Nat.le_trans hn (by decide)

end Result

/-! ## Data -/

theorem Domain.ofTag_ne_mixed {t : FieldType} : ofTag (.declared t) ≠ .mixed := by
  cases t <;> simp [ofTag, TypeTag.known?, ofType]

/-- A value of a type of its own holds no others. -/
theorem Domain.depth_of_has {d : Domain} {v : Value} (hd : d ≠ .mixed) (h : d.Has v) :
    v.depth = 1 := by
  cases d with
  | string | date | boolean =>
    obtain ⟨x, rfl⟩ := h
    rfl
  | number =>
    obtain ⟨n, rfl, -⟩ := h
    rfl
  | mixed => exact absurd rfl hd

namespace Schema
variable {fields : List Field} {strict : Bool} {s : Schema} {values taken : Entries} {r : Result}
variable {name : String} {v : Value}

theorem exists_field (hc : compile strict fields = .ok s) (hn : name ∈ s.names) :
    ∃ f ∈ fields, ∃ w, f.compile = .ok w ∧ ∀ raw, s.validateField name raw = w.validate raw := by
  have hl : Form.Lists { fields } (fun f w => f.compile = .ok w) s.validators :=
    lists_of_compile hc
  obtain ⟨f, w, hf, hw, hfw⟩ := hl.last name (hl.keys_eq ▸ hn)
  refine ⟨f, Form.mem_of_lastField? hf, w, hfw, fun raw => ?_⟩
  rw [validateField, get?, hw]

section
variable (hc : compile strict fields = .ok s) (h : s.validate values = .ok r)
include hc h

/-- What stands in the data is what the field of the name has taken. -/
theorem taken_of_mem (hd : r.data = some taken) (hv : (name, v) ∈ taken) : v ≠ .null ∧
    ∃ f ∈ fields, ∃ w, f.compile = .ok w ∧
      w.validate (valueOf values name) = .ok (.accepted v) := by
  obtain ⟨o, ho, rfl⟩ := validate_eq_ok.1 h
  have hm := madeUp_summary (ofFields_of_compile hc) ho
  obtain ⟨hn, rfl, hnull⟩ := (hm.mem_data hd).1 hv
  obtain ⟨f, hf, w, hfw, hs⟩ := exists_field hc hn
  refine ⟨hnull, f, hf, w, hfw, ?_⟩
  rw [← hs, ho name hn, ← hm.accepted hd hn]

/-- A value that is refused is the one that was given. -/
theorem received_of_mem {e : FieldError} (he : e ∈ r.errors) :
    ∃ name, e.received = valueOf values name := by
  obtain ⟨o, ho, rfl⟩ := validate_eq_ok.1 h
  rw [(madeUp_summary (ofFields_of_compile hc) ho).errors, List.mem_filterMap] at he
  obtain ⟨name, hn, he⟩ := he
  obtain ⟨f, -, w, hfw, hs⟩ := exists_field hc hn
  have hv := ho name hn
  rw [hs] at hv
  cases hon : o name with
  | accepted v =>
    rw [hon] at he
    cases he
  | rejected e' =>
    rw [hon] at he hv
    cases he
    exact ⟨name, (Field.of_rejected hfw hv).2⟩

/-- Where no value that is given is too deep, none that is refused is. -/
theorem received_le {n : Nat} (hn : 0 < n) (hd : (Value.record values).depth ≤ n + 1) :
    ∀ e ∈ r.errors, e.received.depth ≤ n := by
  intro e he
  obtain ⟨name, hname⟩ := received_of_mem hc h he
  rw [hname, valueOf]
  cases hl : values.lookup name with
  | none => exact hn
  | some v => exact Value.levels_record_le.1 hd _ (Entries.mem_of_lookup hl)

variable (ht : ∀ f ∈ fields, ∃ t, f.type = .declared t)
include ht

theorem depth_of_data (hd : r.data = some taken) (hv : (name, v) ∈ taken) : v.depth = 1 := by
  obtain ⟨hnull, f, hf, w, hfw, ha⟩ := taken_of_mem hc h hd hv
  obtain ⟨t, ht⟩ := ht f hf
  rcases (Field.validate_accepted hfw).1 ha with ⟨-, rfl, -⟩ | ⟨-, hcoerce, -⟩
  · exact absurd rfl hnull
  · exact Domain.depth_of_has (ht ▸ Domain.ofTag_ne_mixed) (Domain.coerce_has hcoerce)

/-- **A result can be written iff no value that it refuses is too deep.** -/
theorem shallow_iff : (∀ v ∈ r.values, v.depth ≤ Json.maxDepth) ↔
    ∀ e ∈ r.errors, e.received.depth ≤ Json.maxDepth := by
  rw [Result.values, List.forall_mem_append, List.forall_mem_map, and_iff_left]
  rw [List.forall_mem_map]
  rintro ⟨name, v⟩ hv
  cases hd : r.data with
  | none =>
    rw [hd] at hv
    cases hv
  | some taken =>
    rw [hd] at hv
    rw [depth_of_data hc h ht hd hv]
    decide

end
end Schema
end Formulary
