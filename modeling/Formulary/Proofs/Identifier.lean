/-
  The names of fields that diagnostics let pass.

  * `Lint.IsIdentifier` are the names that are meant, and `Lint.IsLine` those with
    a line feed after them;
  * `Lint.nameProblem?_eq_none`: nothing is wrong with either;
  * `Lint.misnames_iff`: a name is reported iff something is wrong with it;
  * `names_are_identifiers_iff`: so the names that are not reported, and those of
    a strict schema, are the identifiers, but for a line feed.
-/
import Formulary.Proofs.Permissive

namespace Formulary

/-- A field under another name. -/
def Field.withName (f : Field) (name : String) : Field := { f with name }

namespace Lint

/-! ## Identifiers -/

/-- Whether a character is an ASCII letter, an ASCII digit or an underscore. -/
def IsWordChar (c : Char) : Prop :=
  ('A' ≤ c ∧ c ≤ 'Z') ∨ ('a' ≤ c ∧ c ≤ 'z') ∨ ('0' ≤ c ∧ c ≤ '9') ∨ c = '_'

instance : DecidablePred IsWordChar :=
  fun _ => inferInstanceAs (Decidable (_ ∨ _ ∨ _ ∨ _))

/-- Whether a text is a word: letters, digits and underscores, no digit first. -/
@[mk_iff]
structure IsWord (s : List Char) : Prop where
  ne_nil : s ≠ []
  chars : ∀ c ∈ s, IsWordChar c
  start : ∀ c ∈ s.head?, ¬('0' ≤ c ∧ c ≤ '9')

-- the characters that are asked about are those of the text, not all there are
instance : DecidablePred IsWord := fun s =>
  have : Decidable (∀ c ∈ s, IsWordChar c) := List.decidableBAll _ s
  have : Decidable (∀ c ∈ s.head?, ¬('0' ≤ c ∧ c ≤ '9')) := Option.decidableForallMem _
  decidable_of_iff _ (isWord_iff s).symm

/-- Whether a name is an identifier: a word of no more than 100 characters. -/
@[mk_iff]
structure IsIdentifier (name : String) : Prop where
  word : IsWord name.toList
  short : name.length ≤ 100

instance : DecidablePred IsIdentifier := fun name => decidable_of_iff _ (isIdentifier_iff name).symm

/-- Whether a name is an identifier with a line feed after it, no longer than an
    identifier. -/
def IsLine (name : String) : Prop :=
  ∃ word, IsIdentifier word ∧ word.length < 100 ∧ name = word ++ "\n"

theorem between_iff {least c most : Char} :
    (decide (least.val ≤ c.val) && decide (c.val ≤ most.val)) = true ↔ least ≤ c ∧ c ≤ most := by
  simp [Char.le_def]

theorem isDigit_iff {c : Char} : c.isDigit = true ↔ '0' ≤ c ∧ c ≤ '9' := between_iff

theorem isNameChar_iff {c : Char} : isNameChar c = true ↔ IsWordChar c := by
  have upper : c.isUpper = true ↔ 'A' ≤ c ∧ c ≤ 'Z' := decide_eq_true_iff
  have lower : c.isLower = true ↔ 'a' ≤ c ∧ c ≤ 'z' := between_iff
  have kinds : isNameChar c = (c.isUpper || c.isLower || c.isDigit || c == '_') := rfl
  rw [kinds]
  simp only [IsWordChar, Bool.or_eq_true, beq_iff_eq, upper, lower, isDigit_iff, or_assoc]

theorem not_isWord_line {s : List Char} : ¬IsWord (s ++ ['\n']) := by
  intro h
  have hc : IsWordChar '\n' := h.chars _ (List.mem_append_right _ (List.mem_singleton_self _))
  revert hc
  decide

/-- What stands before a line feed at the end, if there is one, is read as a name
    iff it is a word. -/
theorem isName_iff_word {s : List Char} :
    isName s = true ↔ IsWord (if s.getLast? = some '\n' then s.dropLast else s) := by
  unfold isName
  dsimp only
  generalize (if s.getLast? = some '\n' then s.dropLast else s) = w
  cases w with
  | nil => exact iff_of_false Bool.false_ne_true fun h => h.ne_nil rfl
  | cons c rest =>
    simp only [Bool.and_eq_true, Bool.not_eq_true', ← Bool.not_eq_true, List.all_eq_true,
      isNameChar_iff, isDigit_iff]
    constructor
    · rintro ⟨⟨hc, hd⟩, hr⟩
      refine ⟨List.cons_ne_nil c rest, List.forall_mem_cons.2 ⟨hc, hr⟩, ?_⟩
      rintro _ ⟨⟩
      exact hd
    · intro h
      obtain ⟨hc, hr⟩ := List.forall_mem_cons.1 h.chars
      exact ⟨⟨hc, h.start c rfl⟩, hr⟩

/-- What is read as a name is a word, perhaps with a line feed after it. -/
theorem isName_iff {s : List Char} :
    isName s = true ↔ IsWord s ∨ ∃ w, IsWord w ∧ s = w ++ ['\n'] := by
  rw [isName_iff_word]
  by_cases hs : s.getLast? = some '\n'
  · obtain ⟨w, rfl⟩ := List.getLast?_eq_some_iff.1 hs
    rw [if_pos hs, List.dropLast_concat]
    refine ⟨fun h => .inr ⟨w, h, rfl⟩, ?_⟩
    rintro (h | ⟨w', h, he⟩)
    · exact absurd h not_isWord_line
    · rwa [List.append_cancel_right he]
  · rw [if_neg hs]
    refine ⟨.inl, ?_⟩
    rintro (h | ⟨w, -, rfl⟩)
    · exact h
    · exact absurd List.getLast?_concat hs

theorem IsLine.not_isIdentifier {name : String} (h : IsLine name) : ¬IsIdentifier name := by
  rintro ⟨hw, -⟩
  obtain ⟨word, -, -, rfl⟩ := h
  rw [String.toList_append] at hw
  exact not_isWord_line hw

/-- **Nothing is wrong with identifiers**, nor with those that have a line feed
    after them; something is with every other name. -/
theorem nameProblem?_eq_none {name : String} :
    nameProblem? name = none ↔ IsIdentifier name ∨ IsLine name := by
  have problem : nameProblem? name = none ↔
      name ≠ "" ∧ name.length ≤ 100 ∧ isName name.toList = true := by
    unfold nameProblem?
    split
    · simp_all
    · split
      · simp_all [maxNameLength, Nat.not_le.2]
      · split <;> simp_all [maxNameLength]
  have given : ∀ {s : String}, IsWord s.toList → s ≠ "" := by
    rintro _ h rfl
    exact h.ne_nil rfl
  rw [problem, isName_iff]
  constructor
  · rintro ⟨-, hl, hw | ⟨w, hw, hs⟩⟩
    · exact .inl ⟨hw, hl⟩
    · have hname : name = String.ofList w ++ "\n" := by
        rw [← String.toList_inj, hs, String.toList_append, String.toList_ofList]
        rfl
      have hlen : (String.ofList w).length < 100 := by
        rw [hname, String.length_append] at hl
        exact hl
      exact .inr ⟨_, ⟨by rwa [String.toList_ofList], Nat.le_of_lt hlen⟩, hlen, hname⟩
  · rintro (⟨hw, hl⟩ | ⟨word, ⟨hw, -⟩, hlen, rfl⟩)
    · exact ⟨given hw, hl, .inl hw⟩
    · refine ⟨fun h => ?_, ?_, .inr ⟨_, hw, String.toList_append⟩⟩
      · have := congrArg String.length h
        rw [String.length_append] at this
        cases this
      · rw [String.length_append]
        exact hlen

/-! ## Diagnostics of names -/

/-- Whether diagnostics report a name. -/
def Misnames (ds : List Diagnostic) (name : String) : Prop :=
  ∃ d ∈ ds, d.code = .invalidFieldName ∧ d.fieldName = name

section
variable {f : Field} {d : Diagnostic} {ds : List Diagnostic}

/-- The reports of names among the diagnostics of a field are that of its own. -/
theorem mem_field_iff (h : field f = .ok ds) :
    d ∈ ds ∧ d.code = .invalidFieldName ↔ name? f = some d := by
  have own : name? f = some d → d.code = .invalidFieldName := fun h => (name?_eq_some h).1
  unfold field at h
  split at h
  case h_1 v ht =>
    split at h <;> cases h
    simp only [List.mem_append, Option.mem_toList, List.mem_singleton]
    constructor
    · rintro ⟨hd | rfl, hc⟩
      · exact hd
      · cases hc
    · exact fun hd => ⟨.inl hd, own hd⟩
  case h_2 t ht =>
    obtain ⟨rules, hr, h⟩ := bind_eq_ok.1 h
    cases h
    simp only [List.mem_append, Option.mem_toList]
    constructor
    · rintro ⟨((hd | hd) | hd) | hd, hc⟩
      · exact hd
      · obtain ⟨r, -, hrd⟩ := mem_of_filterMapM hr hd
        rcases code_rule? hrd with h | h <;> cases hc.symm.trans h
      · cases hc.symm.trans (code_presence? hd)
      · cases hc.symm.trans (code_choices? hd)
    · exact fun hd => ⟨.inl (.inl (.inl hd)), own hd⟩

end

variable {fields : List Field} {ds : List Diagnostic}

/-- **A name is reported iff something is wrong with it.** -/
theorem misnames_iff (h : lint fields = .ok ds) {f : Field} (hf : f ∈ fields) :
    Misnames ds f.name ↔ nameProblem? f.name ≠ none := by
  constructor
  · rintro ⟨d, hd, hc, hn⟩
    rcases (mem_lint h).1 hd with hd | ⟨g, -, es, hg, hd⟩
    · cases hc.symm.trans (code_duplicates hd)
    · obtain ⟨-, hgn, hp⟩ := name?_eq_some ((mem_field_iff hg).1 ⟨hd, hc⟩)
      rwa [← hn, hgn]
  · intro hp
    obtain ⟨m, hm⟩ := Option.ne_none_iff_exists'.1 hp
    have hd : name? f = some ⟨f.name, .invalidFieldName, m, .error⟩ := by
      rw [name?, hm]
      rfl
    obtain ⟨es, hes⟩ := field_of_lint h f hf
    obtain ⟨hd, hc⟩ := (mem_field_iff hes).2 hd
    exact ⟨_, (mem_lint h).2 (.inr ⟨f, hf, es, hes, hd⟩), hc, rfl⟩

/-- A field has diagnostics under any name, if it has any. -/
theorem lint_withName {f : Field} (h : field f = .ok ds) (name : String) :
    ∃ ds', lint [f.withName name] = .ok ds' := by
  have renamed : ∃ es, field (f.withName name) = .ok es := by
    cases ht : f.type with
    | declared t =>
      have hr : ¬(f.withName name).IsUnreadable := by
        change ¬f.IsUnreadable
        rw [← field_faults ht]
        exact exists_ok_iff.1 ⟨ds, h⟩
      rwa [exists_ok_iff, field_faults (f := f.withName name) ht]
    | bare v =>
      have ht' : (f.withName name).type = .bare v := ht
      unfold field at h ⊢
      rw [ht] at h
      rw [ht']
      dsimp only at h ⊢
      split at h
      · cases h
      · rename_i hv
        exact ⟨_, if_neg hv⟩
  obtain ⟨es, hes⟩ := renamed
  exact ⟨_, by rw [lint, List.mapM_cons, hes]; rfl⟩

/-- A name that is let through strictly has nothing wrong with it. -/
theorem nameProblem?_of_strict {s : Schema} (h : Schema.compile true fields = .ok s) {name : String}
    (hn : name ∈ s.names) : nameProblem? name = none := by
  obtain ⟨-, hl⟩ := Schema.compile_eq_ok.1 h
  obtain ⟨ds, hds, hd⟩ := hl rfl
  rw [Schema.names_of_compile h, List.mem_eraseDups] at hn
  obtain ⟨f, hf, rfl⟩ := List.mem_map.1 hn
  by_contra hp
  obtain ⟨d, hmem, he⟩ := (lint_objects hds).2 (.inr ⟨f, hf, .misnamed hp⟩)
  exact hd d hmem he

end Lint

/-- **The names that are not reported are the identifiers, but for a line feed.**  A
    name is reported among diagnostics iff it is no identifier, unless it is one
    with a line feed after it: that is let pass.  No other name is let through
    strictly; and a field that has diagnostics has some under any name. -/
theorem names_are_identifiers_iff {fields : List Field} {ds : List Diagnostic}
    (h : lint fields = .ok ds) :
    (∀ f ∈ fields,
      (Lint.Misnames ds f.name ↔ ¬(Lint.IsIdentifier f.name ∨ Lint.IsLine f.name)) ∧
      ((Lint.Misnames ds f.name ↔ ¬Lint.IsIdentifier f.name) ↔ ¬Lint.IsLine f.name)) ∧
    (∀ s, Schema.compile true fields = .ok s →
      ∀ name ∈ s.names, Lint.IsIdentifier name ∨ Lint.IsLine name) ∧
    ∀ f ∈ fields, ∀ name, ∃ ds', lint [f.withName name] = .ok ds' := by
  refine ⟨fun f hf => ?reported, fun s hs name hn => ?strict, fun f hf name => ?any⟩
  case reported =>
    have reported : Lint.Misnames ds f.name ↔
        ¬(Lint.IsIdentifier f.name ∨ Lint.IsLine f.name) := by
      rw [Lint.misnames_iff h hf, Ne, Lint.nameProblem?_eq_none]
    refine ⟨reported, ?_⟩
    rw [reported, not_iff_not]
    constructor
    · exact fun hi hline => hline.not_isIdentifier (hi.1 (.inr hline))
    · exact fun hline => or_iff_left hline
  case strict => exact Lint.nameProblem?_eq_none.1 (Lint.nameProblem?_of_strict hs hn)
  case any =>
    obtain ⟨es, hes⟩ := field_of_lint h f hf
    exact Lint.lint_withName hes name

/-- A name that starts with a digit is reported, and one that goes on with it is
    not. -/
theorem names_are_identifiers_iff_digit :
    let first : Field := { name := "1st", label := "First", type := .declared .text }
    let second : Field := { name := "size_2", label := "Size", type := .declared .number }
    ∃ ds, lint [first, second] = .ok ds ∧ Lint.Misnames ds "1st" ∧ ¬Lint.Misnames ds "size_2" ∧
      Lint.IsIdentifier "size_2" := by
  intro first second
  have hl : (lint [first, second]).map (fun _ => ()) = .ok () := by decide +kernel
  obtain ⟨ds, hds, -⟩ := map_eq_ok.1 hl
  obtain ⟨reported, -, -⟩ := names_are_identifiers_iff hds
  have hfirst := (reported first (by simp)).1
  have hsecond := (reported second (by simp)).1
  have identifier : Lint.IsIdentifier "size_2" := by decide
  refine ⟨ds, hds, hfirst.2 fun h => ?_, fun h => hsecond.1 h (.inl identifier), identifier⟩
  exact absurd (Lint.nameProblem?_eq_none.2 h) (by decide)

/-- A line feed passes after a name, though it is in no identifier. -/
theorem line_feed_passes :
    let f : Field := { name := "a\n", label := "A", type := .declared .text }
    lint [f] = .ok [] ∧ ¬Lint.IsIdentifier "a\n" ∧
      ∃ s, Schema.compile true [f] = .ok s ∧ "a\n" ∈ s.names := by
  intro f
  have hc : (Schema.compile true [f]).map (·.names) = .ok ["a\n"] := by decide +kernel
  obtain ⟨s, hs, hn⟩ := map_eq_ok.1 hc
  exact ⟨by decide +kernel, by decide, s, hs, hn ▸ List.mem_singleton_self _⟩

end Formulary
