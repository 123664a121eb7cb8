/-
  What forms are read from.

  * each way of reading has a lemma on what it gives and when: `Read.need_eq_ok`,
    `Read.list_eq_ok` and so on;
  * `Choice.read_eq_ok`, `Rule.read_eq_ok`, `Field.read_eq_ok` and
    `Form.read_eq_ok`: a part of a form is read from a record iff what it is made
    of is read from the entries, as `ReadFrom` says;
  * `Form.ofValue_eq_ok`: a form is read from the record that a value stands for.
-/
import Formulary.Form.Reading
import Formulary.Proofs.Fallible

namespace Formulary

/-! ## Ways of reading -/

namespace Read
variable {α β : Type}

theorem map_eq_ok {f : α → β} {x : Read α} {b : β} :
    f <$> x = .ok b ↔ ∃ a, x = .ok a ∧ f a = b := by
  cases x <;> simp [Functor.map, Read.map]

theorem seq_eq_ok {f : Read (α → β)} {x : Read α} {b : β} :
    f <*> x = .ok b ↔ ∃ g a, f = .ok g ∧ x = .ok a ∧ g a = b := by
  cases f <;> cases x <;> simp [Seq.seq, both, Read.map]

theorem under_eq_ok {x : Read α} {step : String} {a : α} : x.under step = .ok a ↔ x = .ok a := by
  cases x <;> simp [under]

theorem lookup_of_entry {es : Entries} {keys : List String} {k : String} {v : Value}
    (h : entry? es keys = some (k, v)) : k ∈ keys ∧ es.lookup k = some v := by
  obtain ⟨k', hm, hk⟩ := List.exists_of_findSome?_eq_some h
  obtain ⟨v', hv, he⟩ := Option.map_eq_some_iff.1 hk
  cases he
  exact ⟨hm, hv⟩

theorem mem_of_entry {es : Entries} {keys : List String} {p : String × Value}
    (h : entry? es keys = some p) : p ∈ es :=
  Entries.mem_of_lookup (lookup_of_entry h).2

theorem need_eq_ok {read : Value → Read α} {es : Entries} {keys : List String} {a : α} :
    need es keys read = .ok a ↔ ∃ p, entry? es keys = some p ∧ read p.2 = .ok a := by
  unfold need
  cases entry? es keys <;> simp [under_eq_ok]

theorem allow_eq_ok {read : Value → Read α} {es : Entries} {keys : List String} {absent a : α} :
    allow es keys read absent = .ok a ↔
      (∃ p, entry? es keys = some p ∧ read p.2 = .ok a) ∨ entry? es keys = none ∧ a = absent := by
  unfold allow
  cases entry? es keys <;> simp [under_eq_ok, eq_comm (a := absent)]

theorem items_eq_ok {read : Value → Read α} {vs : List Value} :
    ∀ {i : Nat} {as : List α},
      items read i vs = .ok as ↔ List.Forall₂ (fun v a => read v = .ok a) vs as := by
  induction vs with
  | nil =>
    intro i as
    rw [items, ok.injEq, List.forall₂_nil_left_iff, eq_comm]
  | cons v vs ih =>
    intro i as
    simp only [items, seq_eq_ok, map_eq_ok, under_eq_ok, ih, List.forall₂_cons_left_iff]
    constructor
    · rintro ⟨_, as', ⟨a, ha, rfl⟩, has, rfl⟩
      exact ⟨a, as', ha, has, rfl⟩
    · rintro ⟨a, as', ha, has, rfl⟩
      exact ⟨_, as', ⟨a, ha, rfl⟩, has, rfl⟩

theorem list_eq_ok {read : Value → Read α} {v : Value} {as : List α} :
    list read v = .ok as ↔
      ∃ vs, v = .list vs ∧ List.Forall₂ (fun v a => read v = .ok a) vs as := by
  cases v with
  | list vs => simp [list, items_eq_ok]
  | _ => simp [list, fail]

theorem model_eq_ok {name : String} {read : Entries → Read α} {v : Value} {a : α} :
    model name read v = .ok a ↔ ∃ es, v = .record es ∧ read es = .ok a := by
  cases v with
  | record es => simp [model]
  | _ => simp [model, fail]

theorem list?_eq_ok {read : Value → Read α} {v : Value} {as? : Option (List α)} :
    list? read v = .ok as? ↔
      v = .null ∧ as? = none ∨ ∃ as, list read v = .ok as ∧ as? = some as := by
  cases v with
  | null => simp [list?, list, fail, eq_comm]
  | list vs =>
    change some <$> list read (.list vs) = .ok as? ↔ _
    simp [map_eq_ok, eq_comm (a := as?)]
  | _ => simp [list?, list, fail, Read.map]

theorem finish_eq_ok {x : Read α} {model : String} {a : α} :
    x.finish model = .ok a ↔ x = .ok a := by
  cases x <;> simp [finish]

end Read

open Read

/-! ## Parts of forms -/

/-- Whether the entries of a record are read as what a choice is made of. -/
structure Choice.ReadFrom (es : Entries) (c : Choice) : Prop where
  label : need es ["label"] text = .ok c.label
  value : need es ["value"] ChoiceValue.read = .ok c.value

theorem Choice.read_eq_ok {v : Value} {c : Choice} :
    read v = .ok c ↔ ∃ es, v = .record es ∧ c.ReadFrom es := by
  unfold read
  rw [model_eq_ok]
  refine exists_congr fun es => and_congr_right fun _ => ?_
  simp only [seq_eq_ok, Read.map_eq_ok]
  constructor
  · rintro ⟨_, _, ⟨_, hl, rfl⟩, hv, rfl⟩
    exact ⟨hl, hv⟩
  · rintro ⟨hl, hv⟩
    exact ⟨_, _, ⟨_, hl, rfl⟩, hv, rfl⟩

/-- Whether the entries of a record are read as what a rule is made of. -/
structure Rule.ReadFrom (es : Entries) (r : Rule) : Prop where
  kind : need es ["kind", "type"] RuleKind.read = .ok r.kind
  argument : allow es ["value"] .ok .null = .ok r.argument
  message : need es ["message"] text = .ok r.message

theorem Rule.read_eq_ok {v : Value} {r : Rule} :
    read v = .ok r ↔ ∃ es, v = .record es ∧ r.ReadFrom es := by
  unfold read
  rw [model_eq_ok]
  refine exists_congr fun es => and_congr_right fun _ => ?_
  simp only [seq_eq_ok, Read.map_eq_ok]
  constructor
  · rintro ⟨_, _, ⟨_, _, ⟨_, hk, rfl⟩, ha, rfl⟩, hm, rfl⟩
    exact ⟨hk, ha, hm⟩
  · rintro ⟨hk, ha, hm⟩
    exact ⟨_, _, ⟨_, _, ⟨_, hk, rfl⟩, ha, rfl⟩, hm, rfl⟩

/-- Whether the entries of a record are read as what a field is made of. -/
structure Field.ReadFrom (es : Entries) (f : Field) : Prop where
  name : need es ["name"] text = .ok f.name
  label : need es ["label"] text = .ok f.label
  type : ∃ t, need es ["type"] FieldType.read = .ok t ∧ f.type = .declared t
  placeholder : allow es ["placeholder"] text? none = .ok f.placeholder
  choices : allow es ["options"] (list? Choice.read) none = .ok f.choices
  rules : allow es ["validationRules", "validation_rules"] (list Rule.read) [] = .ok f.rules
  default : allow es ["defaultValue", "default_value"] .ok .null = .ok f.default

theorem Field.read_eq_ok {v : Value} {f : Field} :
    read v = .ok f ↔ ∃ es, v = .record es ∧ f.ReadFrom es := by
  unfold read
  rw [model_eq_ok]
  refine exists_congr fun es => and_congr_right fun _ => ?_
  simp only [seq_eq_ok, Read.map_eq_ok]
  constructor
  · rintro ⟨_, _, ⟨_, _, ⟨_, _, ⟨_, _, ⟨_, _, ⟨_, _, ⟨_, hn, rfl⟩, hl, rfl⟩, ⟨t, ht, rfl⟩, rfl⟩,
      hp, rfl⟩, hc, rfl⟩, hr, rfl⟩, hd, rfl⟩
    exact ⟨hn, hl, ⟨t, ht, rfl⟩, hp, hc, hr, hd⟩
  · rintro ⟨hn, hl, ⟨t, ht, he⟩, hp, hc, hr, hd⟩
    exact ⟨_, _, ⟨_, _, ⟨_, _, ⟨_, _, ⟨_, _, ⟨_, _, ⟨_, hn, rfl⟩, hl, rfl⟩, ⟨t, ht, he.symm⟩, rfl⟩,
      hp, rfl⟩, hc, rfl⟩, hr, rfl⟩, hd, rfl⟩

theorem Field.ReadFrom.declared {es : Entries} {f : Field} (h : f.ReadFrom es) :
    ∃ t, f.type = .declared t := by
  obtain ⟨t, -, ht⟩ := h.type
  exact ⟨t, ht⟩

/-! ## Forms -/

namespace Form
variable {form : Form} {v : Value}

/-- Whether the entries of a record are read as what a form is made of; there is no
    handler among them. -/
structure ReadFrom (es : Entries) (form : Form) : Prop where
  title : allow es ["title"] text? none = .ok form.title
  fields : need es ["fields"] (list Field.read) = .ok form.fields
  submitText : allow es ["submitButtonText", "submit_button_text"] text? none =
    .ok form.submitText
  handler : allow es ["onSubmit", "on_submit"] readHandler () = .ok ()

theorem read_eq_ok : read v = .ok form ↔ ∃ es, v = .record es ∧ form.ReadFrom es := by
  unfold read
  rw [model_eq_ok]
  refine exists_congr fun es => and_congr_right fun _ => ?_
  simp only [seq_eq_ok, Read.map_eq_ok]
  constructor
  · rintro ⟨_, _, ⟨_, _, ⟨_, _, ⟨_, ht, rfl⟩, hf, rfl⟩, hs, rfl⟩, hh, rfl⟩
    exact ⟨ht, hf, hs, hh⟩
  · rintro ⟨ht, hf, hs, hh⟩
    exact ⟨_, _, ⟨_, _, ⟨_, _, ⟨_, ht, rfl⟩, hf, rfl⟩, hs, rfl⟩, hh, rfl⟩

/-- The record that a value stands for as a form: a list is that of the fields. -/
def root : Value → Value
  | .list fields => .record [("fields", .list fields)]
  | v => v

theorem ofValue_eq (v : Value) : ofValue v = (read (root v)).finish model := by
  cases v <;> rfl

theorem ofValue_eq_ok :
    ofValue v = .ok form ↔ ∃ es, root v = .record es ∧ form.ReadFrom es := by
  rw [ofValue_eq, finish_eq_ok, read_eq_ok]

end Form
end Formulary
