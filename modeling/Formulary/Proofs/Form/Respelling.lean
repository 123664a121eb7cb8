/-
  Forms that are spelled in different ways.

  Some keys have two spellings.  A form may be given as data, as a text, or, if it
  has nothing but fields, as the list of them.

  * `Spelling` is how the records of one kind may be written, and
    `Value.Respelled` whether two values differ in the spelling of keys only;
  * `Read.Agrees`: the same is read twice, or nothing both times; each way of
    reading has a lemma on it;
  * `Rule.agrees_of_respelled`, `Field.agrees_of_respelled` and
    `Form.agrees_of_respelled`: respelled parts are read alike;
  * `Form.load_respelled`: a form is loaded alike however it is presented and
    spelled, and its data are as they are given.
-/
import Formulary.Proofs.Form.Loading

namespace Formulary

/-! ## Spellings -/

/-- How the records of a kind may be written. -/
structure Spelling where
  /-- The keys with more than one spelling, each as its spellings. -/
  spellings : List (List String)
  /-- The keys of parts that may be written in different ways themselves. -/
  parts : List String
  /-- Whether two values are the same part. -/
  part : Value → Value → Prop

namespace Spelling
variable (s : Spelling)

/-- Whether two keys are one, or spellings of one. -/
def SameKey (k l : String) : Prop := k = l ∨ ∃ ks ∈ s.spellings, k ∈ ks ∧ l ∈ ks

/-- Whether no two spellings of a key stand in a record. -/
def Once (es : Entries) : Prop :=
  ∀ ks ∈ s.spellings, ∀ k ∈ ks, ∀ l ∈ ks, k ∈ Entries.keys es → l ∈ Entries.keys es → k = l

/-- Whether two entries have the same key, and the same value or two ways to write
    a part. -/
structure SameEntry (p q : String × Value) : Prop where
  key : s.SameKey p.1 q.1
  value : p.2 = q.2 ∨ p.1 ∈ s.parts ∧ s.part p.2 q.2

theorem SameEntry.refl {s : Spelling} (p : String × Value) : s.SameEntry p p :=
  ⟨.inl rfl, .inl rfl⟩

/-- Whether two records have the same entries one by one, and each spells no key
    twice. -/
structure Same (es es' : Entries) : Prop where
  entries : List.Forall₂ s.SameEntry es es'
  left : s.Once es
  right : s.Once es'

instance (k l : String) : Decidable (s.SameKey k l) := inferInstanceAs (Decidable (_ ∨ _))

instance (es : Entries) : Decidable (s.Once es) :=
  inferInstanceAs (Decidable (∀ ks ∈ s.spellings, ∀ k ∈ ks, ∀ l ∈ ks,
    k ∈ Entries.keys es → l ∈ Entries.keys es → k = l))

/-- Whether some keys are one with all its spellings. -/
def Lists (keys : List String) : Prop :=
  (keys ∈ s.spellings ∨ keys.length = 1) ∧
    ∀ ks ∈ s.spellings, ks = keys ∨ ∀ k ∈ ks, k ∉ keys

/-- Whether no parts stand under some keys. -/
def Plain (keys : List String) : Prop := ∀ k ∈ keys, k ∉ s.parts

instance (keys : List String) : Decidable (s.Lists keys) := inferInstanceAs (Decidable (_ ∧ _))

instance (keys : List String) : Decidable (s.Plain keys) :=
  inferInstanceAs (Decidable (∀ k ∈ keys, k ∉ s.parts))

end Spelling

/-- Whether two values are the same, or records that differ in the spelling of keys
    and in how their parts are written. -/
inductive Value.Respelled (s : Spelling) : Value → Value → Prop
  | same (v : Value) : Respelled s v v
  | record {es es' : Entries} : s.Same es es' → Respelled s (.record es) (.record es')

/-- Whether two values are the same, or lists of items that correspond. -/
inductive Value.ItemsRespelled (s : Spelling) : Value → Value → Prop
  | same (v : Value) : ItemsRespelled s v v
  | list {vs ws : List Value} : List.Forall₂ (Respelled s) vs ws →
      ItemsRespelled s (.list vs) (.list ws)

def Rule.spelling : Spelling where
  spellings := [["kind", "type"]]
  parts := []
  part := Eq

def Field.spelling : Spelling where
  spellings := [["validationRules", "validation_rules"], ["defaultValue", "default_value"]]
  parts := ["validationRules", "validation_rules"]
  part := Value.ItemsRespelled Rule.spelling

def Form.spelling : Spelling where
  spellings := [["submitButtonText", "submit_button_text"], ["onSubmit", "on_submit"]]
  parts := ["fields"]
  part := Value.ItemsRespelled Field.spelling

/-! ## Reading alike -/

namespace Read
variable {α β : Type}

/-- Whether the same is read twice, or nothing both times. -/
def Agrees (x y : Read α) : Prop := ∀ a, x = .ok a ↔ y = .ok a

theorem Agrees.refl (x : Read α) : Agrees x x := fun _ => Iff.rfl

theorem Agrees.map {x y : Read α} (h : Agrees x y) (f : α → β) : Agrees (f <$> x) (f <$> y) := by
  intro b
  simp only [map_eq_ok, h _]

theorem Agrees.seq {f g : Read (α → β)} {x y : Read α} (hf : Agrees f g) (h : Agrees x y) :
    Agrees (f <*> x) (g <*> y) := by
  intro b
  simp only [seq_eq_ok, hf _, h _]

section
variable {read : Value → Read α} {s : Spelling} {es es' : Entries} {keys : List String}

theorem Agrees.list (hr : ∀ v w, v.Respelled s w → Agrees (read v) (read w)) {v w : Value}
    (h : v.ItemsRespelled s w) : Agrees (list read v) (list read w) := by
  cases h with
  | same => exact .refl _
  | @list vs ws h =>
    intro as
    simp only [list_eq_ok, Value.list.injEq, exists_eq_left']
    induction h generalizing as with
    | nil => rfl
    | cons hv _ ih => simp only [List.forall₂_cons_left_iff, ih, hr _ _ hv _]

/-- Where a record spells no key twice, the entry under a key in any spelling is the
    first with one. -/
theorem entry?_eq_find? (h : ∀ k ∈ keys, ∀ l ∈ keys, k ∈ Entries.keys es → l ∈ Entries.keys es →
    k = l) : entry? es keys = es.find? (·.1 ∈ keys) := by
  cases hf : es.find? (·.1 ∈ keys) with
  | none =>
    refine List.findSome?_eq_none_iff.2 fun k hk => ?_
    rw [Option.map_eq_none_iff, ← Option.not_isSome_iff_eq_none, Entries.isSome_lookup]
    intro hm
    obtain ⟨p, hp, rfl⟩ := List.mem_map.1 hm
    simpa [hk] using List.find?_eq_none.1 hf p hp
  | some p =>
    obtain ⟨hp, before, after, rfl, hbefore⟩ := List.find?_eq_some_iff_append.1 hf
    have hp : p.1 ∈ keys := of_decide_eq_true hp
    have hl : (before ++ p :: after).lookup p.1 = some p.2 := by
      refine List.lookup_eq_some_iff.2 ⟨before, after, rfl, fun q hq => ?_⟩
      have hne : q.1 ∉ keys := by simpa using hbefore q hq
      exact bne_iff_ne.2 fun e => hne (e ▸ hp)
    cases he : entry? (before ++ p :: after) keys with
    | none => simpa [hl] using List.findSome?_eq_none_iff.1 he p.1 hp
    | some q =>
      obtain ⟨hq, hlq⟩ := lookup_of_entry he
      have hk : q.1 = p.1 := h _ hq _ hp (Entries.isSome_lookup.1 (by rw [hlq]; rfl))
        (by simp [Entries.keys])
      rw [hk, hl] at hlq
      rw [Prod.ext hk (Option.some.inj hlq).symm]

theorem rel_entry (h : s.Same es es') (hk : s.Lists keys) :
    Option.Rel s.SameEntry ( entry? es keys) ( entry? es' keys) := by
  have once {es : Entries} (he : s.Once es) : ∀ k ∈ keys, ∀ l ∈ keys,
      k ∈ Entries.keys es → l ∈ Entries.keys es → k = l := by
    rcases hk.1 with hm | hl
    · exact he keys hm
    · obtain ⟨k, rfl⟩ := List.length_eq_one_iff.1 hl
      simp
  -- which spelling is looked for first no longer matters, so the records are followed in step
  rw [entry?_eq_find? (once h.left), entry?_eq_find? (once h.right)]
  refine rel_find?_of_forall₂ h.entries fun p q hpq => ?_
  rcases hpq.key with he | ⟨ks, hm, hp, hq⟩
  · rw [he]
  · rcases hk.2 ks hm with rfl | hn
    · simp [hp, hq]
    · simp [hn _ hp, hn _ hq]

theorem agrees_of_sameEntry {p q : String × Value} (h : s.SameEntry p q)
    (hr : p.1 ∉ s.parts ∨ ∀ v w, s.part v w → Agrees (read v) (read w)) :
    Agrees (read p.2) (read q.2) := by
  rcases h.value with he | ⟨hp, hv⟩
  · rw [he]
    exact .refl _
  · rcases hr with hn | hr
    · exact absurd hp hn
    · exact hr _ _ hv

theorem exists_entry?_iff (h : s.Same es es') (hk : s.Lists keys)
    (hr : s.Plain keys ∨ ∀ v w, s.part v w → Agrees (read v) (read w)) (a : α) :
    (∃ p, entry? es keys = some p ∧ read p.2 = .ok a) ↔
      ∃ q, entry? es' keys = some q ∧ read q.2 = .ok a := by
  have he := rel_entry h hk
  have hm (p : String × Value) (hp : entry? es keys = some p) : p.1 ∈ keys :=
    (lookup_of_entry hp).1
  generalize entry? es keys = x at he hm ⊢
  generalize entry? es' keys = y at he ⊢
  cases he with
  | none => rfl
  | @some p q hpq =>
    simp only [Option.some.injEq, exists_eq_left']
    exact agrees_of_sameEntry hpq (hr.imp_left fun hn => hn _ (hm p rfl)) a

theorem Agrees.need (h : s.Same es es') (hk : s.Lists keys)
    (hr : s.Plain keys ∨ ∀ v w, s.part v w → Agrees (read v) (read w)) :
    Agrees (need es keys read) (need es' keys read) := by
  intro a
  rw [need_eq_ok, need_eq_ok, exists_entry?_iff h hk hr]

theorem Agrees.allow (h : s.Same es es') (hk : s.Lists keys)
    (hr : s.Plain keys ∨ ∀ v w, s.part v w → Agrees (read v) (read w)) (absent : α) :
    Agrees (allow es keys read absent) (allow es' keys read absent) := by
  have hn : entry? es keys = none ↔ entry? es' keys = none := by
    have he := rel_entry h hk
    generalize entry? es keys = x at he ⊢
    generalize entry? es' keys = y at he ⊢
    cases he <;> simp
  intro a
  rw [allow_eq_ok, allow_eq_ok, exists_entry?_iff h hk hr, hn]

theorem Agrees.model {name : String} {read : Entries → Read α}
    (hr : ∀ es es', s.Same es es' → Agrees (read es) (read es')) {v w : Value}
    (h : v.Respelled s w) : Agrees (model name read v) (model name read w) := by
  cases h with
  | same => exact .refl _
  | record h => exact hr _ _ h

end
end Read

/-! ## Parts -/

open Read (Agrees)

theorem Rule.agrees_of_respelled (v w : Value) :
    v.Respelled spelling w → Agrees (read v) (read w) := by
  refine Agrees.model fun es es' h => ?_
  refine .seq (.seq (.map ?kind _) ?argument) ?message
  case kind => exact .need h (by decide) (.inl (by decide))
  case argument => exact .allow h (by decide) (.inl (by decide)) _
  case message => exact .need h (by decide) (.inl (by decide))

theorem Field.agrees_of_respelled (v w : Value) :
    v.Respelled spelling w → Agrees (read v) (read w) := by
  refine Agrees.model fun es es' h => ?_
  refine .seq (.seq (.seq (.seq (.seq (.seq (.map ?name _) ?label) (.map ?type _)) ?placeholder)
    ?choices) ?rules) ?default
  case rules =>
    refine .allow h (by decide) (.inr fun _ _ hr => ?_) _
    exact Agrees.list Rule.agrees_of_respelled hr
  case name | label | type => exact .need h (by decide) (.inl (by decide))
  case placeholder | choices | default => exact .allow h (by decide) (.inl (by decide)) _

theorem Form.agrees_of_respelled (v w : Value) :
    v.Respelled spelling w → Agrees (read v) (read w) := by
  refine Agrees.model fun es es' h => ?_
  refine .seq (.seq (.seq (.map ?title _) ?fields) ?submitText) ?handler
  case fields =>
    exact .need h (by decide) (.inr fun _ _ hf => Agrees.list Field.agrees_of_respelled hf)
  case title | submitText | handler => exact .allow h (by decide) (.inl (by decide)) _

/-! ## Data -/

/-- The value of a record under a key in any of its spellings, or none. -/
def Value.under (keys : List String) : Value → Value
  | .record es =>
    match Read.entry? es keys with
    | some (_, v) => v
    | none => .null
  | _ => .null

/-- The items of a list. -/
def Value.items : Value → List Value
  | .list vs => vs
  | _ => []

/-- Whether a rule has the argument that a value has. -/
def Rule.KeepsData (v : Value) (r : Rule) : Prop := r.argument = v.under ["value"]

/-- Whether a field starts from what a value starts from, and its rules have the
    arguments there one by one. -/
structure Field.KeepsData (v : Value) (f : Field) : Prop where
  default : f.default = v.under ["defaultValue", "default_value"]
  arguments : List.Forall₂ Rule.KeepsData
    (v.under ["validationRules", "validation_rules"]).items f.rules

namespace Read
variable {α : Type} {es : Entries} {keys : List String}

theorem eq_under_of_allow {v : Value} (h : allow es keys .ok .null = .ok v) :
    v = (Value.record es).under keys := by
  rcases allow_eq_ok.1 h with ⟨p, hp, hv⟩ | ⟨hn, rfl⟩
  · cases hv
    simp [Value.under, hp]
  · simp [Value.under, hn]

theorem items_under_of_need {read : Value → Read α} {as : List α}
    (h : need es keys (list read) = .ok as) :
    List.Forall₂ (fun v a => read v = .ok a) ((Value.record es).under keys).items as := by
  obtain ⟨p, hp, ha⟩ := need_eq_ok.1 h
  obtain ⟨vs, hv, has⟩ := list_eq_ok.1 ha
  simpa [Value.under, Value.items, hp, hv] using has

theorem items_under_of_allow {read : Value → Read α} {as : List α}
    (h : allow es keys (list read) [] = .ok as) :
    List.Forall₂ (fun v a => read v = .ok a) ((Value.record es).under keys).items as := by
  rcases allow_eq_ok.1 h with ha | ⟨hn, rfl⟩
  · exact items_under_of_need (need_eq_ok.2 ha)
  · simp [Value.under, Value.items, hn]

end Read

theorem Rule.keepsData_of_read {v : Value} {r : Rule} (h : read v = .ok r) : r.KeepsData v := by
  obtain ⟨es, rfl, hes⟩ := read_eq_ok.1 h
  exact Read.eq_under_of_allow hes.argument

theorem Field.keepsData_of_read {v : Value} {f : Field} (h : read v = .ok f) : f.KeepsData v := by
  obtain ⟨es, rfl, hes⟩ := read_eq_ok.1 h
  exact ⟨Read.eq_under_of_allow hes.default,
    (Read.items_under_of_allow hes.rules).imp fun _ _ => Rule.keepsData_of_read⟩

/-! ## Ways to give a form -/

namespace Form
variable {x y v w : Value}

/-- Whether two values stand for records that differ in the spelling of keys only. -/
def Respelled (x y : Value) : Prop := (root x).Respelled spelling (root y)

/-- The values that a form is loaded from as from a record or a list: those that
    stand for the same record, and the texts of such values. -/
inductive Presents (x : Value) : Value → Prop
  | data {v : Value} : root v = root x → Presents x v
  | text {s : String} {v : Value} : Json.read s = .ok v → root v = root x → Presents x (.text s)

/-- Whether the fields of a form start from what those of a value do, and their
    rules have the arguments there. -/
def KeepsData (v : Value) (form : Form) : Prop :=
  List.Forall₂ Field.KeepsData ((root v).under ["fields"]).items form.fields

theorem root_eq_text {s : String} : root v = .text s ↔ v = .text s := by
  cases v <;> simp [root]

theorem load_eq_ofValue (hv : ∀ s, v ≠ .text s) : load v = ofValue v := by
  unfold load
  split
  · exact absurd rfl (hv _)
  · rfl

theorem Presents.load_eq (hx : ∀ s, x ≠ .text s) (h : Presents x v) :
    load v = (read (root x)).finish model := by
  cases h with
  | data hv =>
    rw [load_eq_ofValue fun s hs => hx s (root_eq_text.1 (hv ▸ root_eq_text.2 hs)), ofValue_eq, hv]
  | text hs hv => rw [load_text hs, ofValue_eq, hv]

theorem Respelled.not_text (hx : ∀ s, x ≠ .text s) (h : Respelled x y) (s : String) :
    y ≠ .text s := by
  rintro rfl
  unfold Respelled at h
  generalize hr : root x = r at h
  cases h with
  | same => exact hx s (root_eq_text.1 hr)

theorem keepsData_of_read {form : Form} (h : read (root v) = .ok form) : form.KeepsData v := by
  obtain ⟨es, he, h⟩ := read_eq_ok.1 h
  unfold KeepsData
  rw [he]
  exact (Read.items_under_of_need h.fields).imp fun _ _ => Field.keepsData_of_read

/-- **A form is loaded alike however it is presented and spelled**, and its data are
    as they are given. -/
theorem load_respelled (hx : ∀ s, x ≠ .text s) (h : Respelled x y) (hv : Presents x v)
    (hw : Presents y w) :
    (∃ form, load v = .ok form ∧ load w = .ok form ∧ form.KeepsData x ∧ form.KeepsData y) ∨
      (∃ r, load v = .error (.refused r)) ∧ ∃ r, load w = .error (.refused r) := by
  rw [hv.load_eq hx, hw.load_eq (h.not_text hx)]
  have ha := agrees_of_respelled _ _ h
  cases hr : read (root x) with
  | ok form =>
    have hr' := (ha form).1 hr
    rw [hr']
    exact .inl ⟨form, rfl, rfl, keepsData_of_read hr, keepsData_of_read hr'⟩
  | refused rs =>
    cases hr' : read (root y) with
    | ok form =>
      have := (ha form).2 hr'
      rw [hr] at this
      cases this
    | refused rs' => exact .inr ⟨⟨_, rfl⟩, _, rfl⟩

/-- A list of fields that is given as a record and as a text with other spellings;
    the value to start from has a key that is spelled as one of a field. -/
theorem load_respelled_mixed :
    let fields (kind rules default : String) : Value :=
      let rule := Value.record [(kind, .text "min"), ("value", .int 1), ("message", .text "?")]
      .list [.record [("name", .text "n"), ("label", .text "N"), ("type", .text "text"),
        (rules, .list [rule]), (default, .record [("default_value", .null)])]]
    let x := fields "type" "validationRules" "default_value"
    let y := fields "kind" "validation_rules" "defaultValue"
    let v := Value.record [("fields", x)]
    let w := Value.text (Json.write .unicode y)
    (∀ s, x ≠ .text s) ∧ Respelled x y ∧ Presents x v ∧ Presents y w ∧
      ∃ form, load v = .ok form ∧ load w = .ok form ∧ form.KeepsData x ∧ form.KeepsData y := by
  intro fields x y v w
  have hx : ∀ s, x ≠ .text s := by simp [x, fields]
  have hr : Respelled x y := by
    have part {s : Spelling} {k l : String} {es es' : Entries}
        (hk : k ∈ s.parts ∧ s.SameKey k l) {inner : Spelling}
        (he : s.part = Value.ItemsRespelled inner) (h : inner.Same es es') :
        s.SameEntry (k, .list [.record es]) (l, .list [.record es']) :=
      ⟨hk.2, .inr ⟨hk.1, he ▸ .list (.cons (.record h) .nil)⟩⟩
    refine .record ⟨.cons (part (by decide) rfl ?field) .nil, by decide, by decide⟩
    refine ⟨.cons (.refl _) (.cons (.refl _) (.cons (.refl _) ?_)), by decide, by decide⟩
    refine .cons ?rules (.cons ?default .nil)
    case default => exact ⟨by decide, .inl rfl⟩
    case rules =>
      refine part (by decide) rfl ⟨.cons ?kind (.cons (.refl _) (.cons (.refl _) .nil)), ?_, ?_⟩
      case kind => exact ⟨by decide, .inl rfl⟩
      all_goals decide
  have hv : Presents x v := .data rfl
  have hw : Presents y w := .text (v := y) (by decide +kernel) rfl
  refine ⟨hx, hr, hv, hw, ?_⟩
  rcases load_respelled hx hr hv hw with h | ⟨⟨r, hl⟩, -⟩
  · exact h
  · cases hl

end Form
end Formulary
