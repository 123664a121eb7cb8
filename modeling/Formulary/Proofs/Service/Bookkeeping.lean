/-
  What a service keeps of a run.

  * `exchanges` are those of calls in turn, and `Since` is what has happened
    since the latest time that a form was mounted under an id, if it was not
    dropped after that;
  * `Kept` is what every orderly exchange preserves;
  * `run_is_accounted`: the forms that are mounted, the data that are recorded
    and what is answered are told by the run.
-/
import Formulary.Proofs.Service.Exchange

namespace Formulary.Service

/-- Calls in turn. -/
def exchanges (settings : Settings) : Store → List Call → List Exchange
  | _, [] => []
  | s, c :: calls =>
    exchange settings s c :: exchanges settings (exchange settings s c).after calls

/-- Whether a form was mounted under an id and not dropped since, and these are
    the exchanges since it was mounted last. -/
def Since (run : List Exchange) (id : String) (later : List Exchange) : Prop :=
  ∃ before m, run = before ++ m :: later ∧ m.Mounts id ∧
    ∀ x ∈ later, ¬ x.Mounts id ∧ ¬ x.Unmounts id

section
variable {run : List Exchange} {x : Exchange} {id : String} {later : List Exchange}

/-- What has happened since a form was mounted under an id, after one exchange
    more. -/
theorem since_concat : Since (run ++ [x]) id later ↔ (x.Mounts id ∧ later = []) ∨
    (¬ x.Mounts id ∧ ¬ x.Unmounts id ∧ ∃ l, Since run id l ∧ later = l ++ [x]) := by
  constructor
  · rintro ⟨before, m, h, hm, hl⟩
    rcases concat_eq_append_cons.1 h with ⟨rfl, rfl, rfl⟩ | ⟨l, rfl, rfl⟩
    · exact .inl ⟨hm, rfl⟩
    · obtain ⟨hx, hu⟩ := hl x (by simp)
      exact .inr ⟨hx, hu, l, ⟨before, m, rfl, hm, fun y hy => hl y (by simp [hy])⟩, rfl⟩
  · rintro (⟨hm, rfl⟩ | ⟨hx, hu, l, ⟨before, m, rfl, hm, hl⟩, rfl⟩)
    · exact ⟨run, x, rfl, hm, by simp⟩
    · exact ⟨before, m, by simp, hm,
        List.forall_mem_append.2 ⟨hl, List.forall_mem_singleton.2 ⟨hx, hu⟩⟩⟩

/-- What is kept of a run in a store. -/
structure Kept (run : List Exchange) (s : Store) : Prop where
  forms : ∀ id, (s.find? (.text id)).isSome = true ↔ ∃ later, Since run id later
  bare : ∀ id, s.find? (.text id) = none → s.submission? (.text id) = none
  latest : ∀ id later, Since run id later →
    s.submission? (.text id) = (later.filterMap (·.passed? id)).getLast?

theorem kept_nil : Kept [] {} where
  forms id := by simp [Since, Store.find?]
  bare id _ := rfl
  latest id later := by simp [Since]

theorem Kept.concat (h : Kept run x.before) (hx : ∀ id, x.Does id) :
    Kept (run ++ [x]) x.after where
  forms id := by
    simp only [since_concat]
    cases hx id with
    | mounts hm hf => exact iff_of_true hf ⟨[], .inl ⟨hm, rfl⟩⟩
    | unmounts hm hu hf =>
      refine iff_of_false (by simp [hf]) ?_
      rintro ⟨later, ⟨hm', -⟩ | ⟨-, hu', -⟩⟩
      · exact hm hm'
      · exact hu' hu
    | keeps hm hu hf =>
      rw [hf, h.forms]
      constructor
      · rintro ⟨l, hl⟩
        exact ⟨l ++ [x], .inr ⟨hm, hu, l, hl, rfl⟩⟩
      · rintro ⟨later, ⟨hm', -⟩ | ⟨-, -, l, hl, -⟩⟩
        · exact absurd hm' hm
        · exact ⟨l, hl⟩
  bare id hn := by
    cases hx id with
    | mounts _ hf => simp [hn] at hf
    | unmounts _ _ _ hs => exact hs
    | keeps hm hu hf hs =>
      rw [hn] at hf
      have hb : x.before.find? (.text id) = none := by simpa using hf.symm
      have hp : x.passed? id = none := by
        rw [Option.eq_none_iff_forall_ne_some]
        intro data hd
        obtain ⟨-, -, y, r, hy, -⟩ := passed?_eq_some.1 hd
        rw [hb] at hy
        cases hy
      rw [hs, hp, h.bare id hb]
      rfl
  latest id later hl := by
    rcases since_concat.1 hl with ⟨hm, rfl⟩ | ⟨hm, hu, l, hl', rfl⟩
    · cases hx id with
      | mounts _ _ hs => exact hs
      | unmounts hm' => exact absurd hm hm'
      | keeps hm' => exact absurd hm hm'
    · cases hx id with
      | mounts hm' => exact absurd hm' hm
      | unmounts _ hu' => exact absurd hu' hu
      | keeps _ _ _ hs =>
        rw [hs, h.latest id l hl', List.filterMap_append, List.getLast?_append]
        cases hp : x.passed? id <;> simp [hp]

end

/-! ## Runs -/

section
variable {settings : Settings} {s : Store} {calls : List Call}

theorem Kept.extend {run : List Exchange} (hk : Kept run s) (hs : s.Textual)
    (hc : ∀ c ∈ calls, HasTextId c) :
    Kept (run ++ exchanges settings s calls) (after settings s calls) ∧
      (after settings s calls).Textual := by
  induction calls generalizing run s with
  | nil =>
    rw [exchanges, List.append_nil]
    exact ⟨hk, hs⟩
  | cons c calls ih =>
    obtain ⟨hd, ht⟩ := exchange_orderly settings hs (hc c (by simp))
    rw [exchanges, List.append_cons]
    exact ih (hk.concat hd) ht fun d hd => hc d (by simp [hd])

/-- Each exchange of a run is that of a call on what those before it have left. -/
theorem exists_call {before later : List Exchange} {x : Exchange}
    (h : exchanges settings s calls = before ++ x :: later) :
    ∃ past c rest, calls = past ++ c :: rest ∧ before = exchanges settings s past ∧
      x = exchange settings (after settings s past) c := by
  induction calls generalizing s before with
  | nil => simp [exchanges] at h
  | cons c calls ih =>
    rw [exchanges] at h
    cases before with
    | nil =>
      obtain ⟨rfl, -⟩ := List.cons.inj h
      exact ⟨[], c, calls, rfl, rfl, rfl⟩
    | cons y before =>
      obtain ⟨rfl, h'⟩ := List.cons.inj h
      obtain ⟨past, d, rest, rfl, rfl, rfl⟩ := ih h'
      exact ⟨c :: past, d, rest, rfl, rfl, rfl⟩

variable (settings) in
theorem kept_after (hc : ∀ c ∈ calls, HasTextId c) :
    Kept (exchanges settings {} calls) (after settings {} calls) ∧
      (after settings {} calls).Textual :=
  kept_nil.extend Store.textual_empty hc

/-- What a call of a run meets is kept of the run before it. -/
theorem kept_before (hc : ∀ c ∈ calls, HasTextId c) {before later : List Exchange} {x : Exchange}
    (h : exchanges settings {} calls = before ++ x :: later) :
    ∃ s c, x = exchange settings s c ∧ HasTextId c ∧ Kept before s ∧ s.Textual := by
  obtain ⟨past, c, rest, rfl, rfl, rfl⟩ := exists_call h
  have hp : ∀ d ∈ past, HasTextId d := fun d hd => hc d (by simp [hd])
  exact ⟨_, c, rfl, hc c (by simp), kept_after settings hp⟩

end

/-- Whether a run tells what is kept after it and what it has answered. -/
structure Accounted (run : List Exchange) (s : Store) : Prop where
  /-- A form is under an id iff it was mounted there and not dropped since. -/
  forms : ∀ id, (s.find? (.text id)).isSome = true ↔ ∃ later, Since run id later
  /-- Data are recorded under ids of such forms only. -/
  bare : ∀ p ∈ s.submissions, ∃ id later, p.1 = .text id ∧ Since run id later
  /-- They are those of the latest submit since then that was valid, if one was. -/
  latest : ∀ id later, Since run id later →
    s.submission? (.text id) = (later.filterMap (·.passed? id)).getLast?
  /-- A submit that does not fail is answered with its verdict and what it left. -/
  submits : ∀ x ∈ run, Tool.ofName? x.call.1 = some .submitForm →
    ∀ v, x.answer = .ok v → v.get? "error" = none →
      ∃ id, argument x.call.2 "session_id" = .ok (.text id) ∧ x.Tells v id
  /-- An unmount is answered with whether a form was there, and leaves nothing. -/
  unmounts : ∀ before x later, run = before ++ x :: later → ∀ id, x.Unmounts id →
    (∃ b : Bool, x.answer = .ok (.record [("session_id", .text id), ("unmounted", .bool b)]) ∧
      (b = true ↔ ∃ l, Since before id l)) ∧ x.after.cell id = (none, none)
  /-- The forms that are counted are those that were mounted and not dropped since. -/
  count : ∃ ids : List String, ids.Nodup ∧ (∀ id, id ∈ ids ↔ ∃ later, Since run id later) ∧
    (health s).get? "mounted_forms" = some (.int ids.length)

theorem exists_ids {l : List Session} (h : ∀ x ∈ l, x.IsTextual) :
    ∃ ids : List String, l.map (·.key) = ids.map Value.text := by
  induction l with
  | nil => exact ⟨[], rfl⟩
  | cons x l ih =>
    obtain ⟨id, hid, -⟩ := h x (by simp)
    obtain ⟨ids, hids⟩ := ih fun y hy => h y (by simp [hy])
    exact ⟨id :: ids, by simp [hid, hids]⟩

/-- The ids that a store has forms under, each once. -/
theorem exists_nodup_ids {s : Store} (hs : s.Sound) (ht : s.Textual) :
    ∃ ids : List String, ids.Nodup ∧ (∀ id, id ∈ ids ↔ (s.find? (.text id)).isSome = true) ∧
      ids.length = s.sessions.length := by
  obtain ⟨ids, hids⟩ := exists_ids ht.sessions
  refine ⟨ids, ?_, fun id => ?_, by simpa using (congrArg List.length hids).symm⟩
  · have hd := hs.distinct
    rw [hids, List.pairwise_map] at hd
    exact hd.imp fun h => by simpa [SessionId.same_texts] using h
  · have hm : id ∈ ids ↔ Value.text id ∈ s.sessions.map (·.key) := by
      rw [hids]
      simp
    rw [hm, Store.find?, List.find?_isSome, List.mem_map]
    simp only [SessionId.same_text]

/-- What is recorded under an id is found there. -/
theorem submission?_ne_none {s : Store} {id : String} {p : Value × Entries}
    (hp : p ∈ s.submissions) (h : p.1 = .text id) : s.submission? (.text id) ≠ none := by
  rw [Store.submission?, Ne, Option.map_eq_none_iff, List.find?_eq_none]
  exact fun hn => hn p hp (SessionId.same_text.2 h)

/-- **What a service keeps of a run.**  Whatever is called, with texts for ids, the
    run tells which forms are mounted and how many, what is recorded of each,
    and what submits and unmounts are answered with. -/
theorem run_is_accounted (settings : Settings) {calls : List Call}
    (h : ∀ c ∈ calls, HasTextId c) :
    Accounted (exchanges settings {} calls) (callAll settings calls) := by
  obtain ⟨hk, hs⟩ := kept_after settings h
  refine ⟨hk.forms, fun p hp => ?bare, hk.latest, fun x hx ht v hv he => ?submits,
    fun before x later hrun id hu => ?unmounts, ?count⟩
  case bare =>
    obtain ⟨id, hid⟩ := hs.submissions p hp
    have hf : ((after settings {} calls).find? (.text id)).isSome = true := by
      rw [Option.isSome_iff_ne_none]
      exact fun hn => submission?_ne_none hp hid (hk.bare id hn)
    obtain ⟨later, hl⟩ := (hk.forms id).1 hf
    exact ⟨id, later, hid, hl⟩
  case submits =>
    obtain ⟨before, later, hrun⟩ := List.append_of_mem hx
    obtain ⟨s, c, rfl, -, -, hs⟩ := kept_before h hrun
    exact submit_tells ht hs hv he
  case unmounts =>
    obtain ⟨s, c, rfl, hc, hk, hs⟩ := kept_before h hrun
    refine ⟨⟨_, unmount_tells hu, hk.forms id⟩, ?_⟩
    cases (exchange_orderly settings hs hc).does id with
    | mounts hm => cases hm.1.symm.trans hu.1
    | unmounts _ _ hf hsub => exact Prod.ext hf hsub
    | keeps _ hu' => exact absurd hu hu'
  case count =>
    obtain ⟨ids, hn, hm, hl⟩ := exists_nodup_ids (sound_callAll settings calls) hs
    refine ⟨ids, hn, fun id => (hm id).trans (hk.forms id), ?_⟩
    rw [hl]
    simp [health, Value.get?, List.lookup_cons]

/-- What was submitted stays recorded over a later submit that is not valid, and
    a form that is mounted without an id is another one. -/
theorem run_is_accounted_login :
    let mount (given : Entries) : Call :=
      ("mount_form", .record (("form", .text "login") :: given))
    let set (name value : String) : Call := ("set_field_value",
      .record [("session_id", .text "a"), ("name", .text name), ("value", .text value)])
    let submit : Call := ("submit_form", .record [("session_id", .text "a")])
    let calls : List Call := [mount [("session_id", .text "a")], set "email" "x@example.com",
      set "password" "12345678", submit, set "password" "short", submit, mount []]
    (∀ c ∈ calls, HasTextId c) ∧ Accounted (exchanges {} {} calls) (callAll {} calls) ∧
      (callAll {} calls).submission? (.text "a") = some [("email", .text "x@example.com"),
        ("password", .text "12345678"), ("rememberMe", .bool false)] ∧
      (health (callAll {} calls)).get? "mounted_forms" = some (.int 2) := by
  intro mount set submit calls
  have h : ∀ c ∈ calls, HasTextId c := by
    simp [calls, mount, set, submit, HasTextId, argument, List.lookup_cons]
  exact ⟨h, run_is_accounted {} h, by decide +kernel, by decide +kernel⟩

end Formulary.Service
