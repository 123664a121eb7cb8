/-
  The way home: after a submit a form is idle, and its history says so.

  `home_iff_last_submit_validates`: after every run a form is home iff its last
  submit, if there was one, met no integer too long to be written where text is
  expected.  A submit that meets one faults in its validation, and nothing takes
  the status back.
-/
import Formulary.Proofs.Engine.Run
import Formulary.Proofs.Schema
import Mathlib.Data.List.Induction

namespace Formulary.Engine

/-- Whether a form is idle and its history ends so. -/
def IsHome (e : Engine) : Prop := e.state.status = .idle ∧ e.history.getLast? = some .idle

/-- Whether an integer too long to be written is in a field of text. -/
def Overlong (e : Engine) : Prop := e.schema.Overlong e.state.values

/-! ## The history of each operation -/

section
variable {e : Engine} {handler? : Option Handler}

theorem history_note (e : Engine) (ev : Event) :
    (e.note ev).history = e.history ++ ev.status?.toList := by
  cases h : ev.status? <;> simp [history, note, h]

theorem history_moveTo (e : Engine) (s : Status) : (e.moveTo s).history = e.history ++ [s] :=
  history_note _ (.moved s)

theorem history_enter (e : Engine) (s : Span) : (e.enter s).history = e.history := by
  rw [history_eq, history_eq, events_enter]

theorem history_leave (e : Engine) (s : Span) : (e.leave s).history = e.history := by
  rw [history_eq, history_eq, events_leave]

theorem history_begun (e : Engine) : e.begun.history = e.history ++ [.validating] := by
  rw [begun, history_enter, history_moveTo, history_enter]

theorem history_reset (e : Engine) : e.reset.history = e.history :=
  (history_note _ .reset).trans (List.append_nil _)

/-- Only submits add to the history. -/
theorem history_perform {op : Operation} (h : op ≠ .submit) (depth : Nat) :
    (e.perform depth handler? op).1.history = e.history := by
  obtain ⟨added, he, hn⟩ := events_perform h depth handler?
  rw [history_eq, history_eq, he, List.filterMap_append,
    List.filterMap_eq_nil_iff.2 fun ev hev => (hn ev hev).1, List.append_nil]

/-- Without a submit a form that is idle stays so. -/
theorem status_perform {op : Operation} (h : op ≠ .submit) (depth : Nat)
    (hi : e.state.status = .idle) : (e.perform depth handler? op).1.state.status = .idle := by
  cases op with
  | set name v =>
    cases hs : e.state.set name v with
    | ok s =>
      rw [perform, set_ok hs]
      unfold State.set at hs
      split at hs <;> cases hs
      exact hi
    | error f => rw [perform, set_error hs]; exact hi
  | validate =>
    cases hv : e.schema.validate e.state.values with
    | ok r => rw [perform, validate_ok hv]; exact hi
    | error f => rw [perform, validate_error hv]; exact hi
  | submit => exact absurd rfl h
  | reset => rfl

/-! ## Submits -/

theorem isHome_of_idle (e : Engine) (s : Span) : ((e.moveTo .idle).leave s).IsHome := by
  refine ⟨by simp, ?_⟩
  rw [history_leave, history_moveTo, List.getLast?_concat]

/-- A submit leads home, whatever the handler does, unless its validation
    faults. -/
theorem submitWithin_isHome {r : Result} (depth : Nat)
    (h : e.schema.validate e.state.values = .ok r) :
    (e.submitWithin handler? (depth + 1)).1.IsHome := by
  rw [submitWithin_ok depth h]
  cases hr : r.isValid with
  | false => rw [conclude_invalid hr]; exact isHome_of_idle _ _
  | true =>
    cases handler? with
    | none => rw [conclude_unhandled hr]; exact isHome_of_idle _ _
    | some handler => rw [conclude_handled hr]; exact isHome_of_idle _ _

/-- A submit whose validation faults ends the history in the midst of it. -/
theorem submitWithin_last {f : Fault} (depth : Nat)
    (h : e.schema.validate e.state.values = .error f) :
    (e.submitWithin handler? (depth + 1)).1.history.getLast? = some .validating := by
  rw [submitWithin_fault depth h, history_leave, history_leave, history_begun,
    List.getLast?_concat]

theorem last_submitWithin (hs : e.schema.OfFields) (depth : Nat) :
    (e.submitWithin handler? (depth + 1)).1.history.getLast? = some .idle ↔ ¬ e.Overlong := by
  rw [Overlong, ← Schema.validate_faults hs]
  cases h : e.schema.validate e.state.values with
  | ok r =>
    have hh : (e.submitWithin handler? (depth + 1)).1.IsHome := submitWithin_isHome depth h
    simp [hh.2]
  | error f =>
    rw [submitWithin_last depth h]
    simp

theorem isHome_of_last_submitWithin (depth : Nat)
    (h : (e.submitWithin handler? (depth + 1)).1.history.getLast? = some .idle) :
    (e.submitWithin handler? (depth + 1)).1.IsHome := by
  cases hv : e.schema.validate e.state.values with
  | ok r => exact submitWithin_isHome depth hv
  | error f => rw [submitWithin_last depth hv] at h; cases h

end

/-! ## Runs -/

/-- Whether the last submit of a run comes after these operations. -/
def LastSubmit (before ops : List Operation) : Prop :=
  ∃ after, ops = before ++ .submit :: after ∧ .submit ∉ after

theorem not_lastSubmit_nil (before : List Operation) : ¬ LastSubmit before [] := by
  rintro ⟨after, h, -⟩
  simp at h

theorem lastSubmit_submit {before ops : List Operation} :
    LastSubmit before (ops ++ [.submit]) ↔ before = ops := by
  constructor
  · rintro ⟨after, h, ha⟩
    rcases concat_eq_append_cons.1 h with ⟨rfl, -, -⟩ | ⟨rest, rfl, -⟩
    · rfl
    · simp at ha
  · rintro rfl
    exact ⟨[], rfl, by simp⟩

theorem lastSubmit_append {before ops : List Operation} {op : Operation} (h : op ≠ .submit) :
    LastSubmit before (ops ++ [op]) ↔ LastSubmit before ops := by
  constructor
  · rintro ⟨after, ho, ha⟩
    rcases concat_eq_append_cons.1 ho with ⟨-, rfl, -⟩ | ⟨rest, rfl, rfl⟩
    · exact absurd rfl h
    · exact ⟨rest, rfl, fun hm => ha (by simp [hm])⟩
  · rintro ⟨after, rfl, ha⟩
    exact ⟨after ++ [op], by simp, by simp [ha, h.symm]⟩

section
variable {form : Form} {strict traced : Bool} {e₀ : Engine}

theorem performAll_concat (depth : Nat) (handler? : Option Handler) (e : Engine)
    (ops : List Operation) (op : Operation) :
    e.performAll depth handler? (ops ++ [op]) =
      ((e.performAll depth handler? ops).perform depth handler? op).1 := by
  simp [performAll]

/-- **The way home.**  After a run a form is idle with a history that ends so,
    iff no integer too long to be written was in a field of text at its last
    submit.  Neither the handler nor what comes after a submit has a say in
    it. -/
theorem home_iff_last_submit_validates (hm : mount form strict traced = .ok e₀) (depth : Nat)
    (handler? : Option Handler) (ops : List Operation) :
    (e₀.performAll (depth + 1) handler? ops).IsHome ↔
      ∀ before, LastSubmit before ops →
        ¬ (e₀.performAll (depth + 1) handler? before).Overlong := by
  obtain ⟨-, -, hs, hl⟩ := mount_eq_ok hm
  -- a history that ends in idle is of a form that is
  suffices ((e₀.performAll (depth + 1) handler? ops).history.getLast? = some .idle →
      (e₀.performAll (depth + 1) handler? ops).state.status = .idle) ∧
      ((e₀.performAll (depth + 1) handler? ops).history.getLast? = some .idle ↔
        ∀ before, LastSubmit before ops →
          ¬ (e₀.performAll (depth + 1) handler? before).Overlong) from
    ⟨fun h => this.2.1 h.2, fun h => ⟨this.1 (this.2.2 h), this.2.2 h⟩⟩
  induction ops using List.reverseRecOn with
  | nil =>
    refine ⟨fun _ => by simp [performAll, hs, State.initial], ?_⟩
    simp [performAll, history, hl, not_lastSubmit_nil]
  | append_singleton ops op ih =>
    rw [performAll_concat]
    -- a submit decides anew; anything else leaves the history to the last one
    by_cases ho : op = .submit
    · subst ho
      have hsound : (e₀.performAll (depth + 1) handler? ops).Sound :=
        ((tracks_reaches handler?).performAll _ ops e₀).sound (sound_of_mount hm)
      refine ⟨fun h => (isHome_of_last_submitWithin depth h).1, ?_⟩
      rw [perform, last_submitWithin hsound.schema]
      simp only [lastSubmit_submit, forall_eq]
    · rw [history_perform ho]
      simp only [lastSubmit_append ho]
      exact ⟨fun h => status_perform ho _ (ih.1 h), ih.2⟩

end

/-- A handler that fails is no way to stay out. -/
theorem home_iff_last_submit_validates_failing :
    let form : Form := { fields := [{ name := "q", label := "Query", type := .declared .text }] }
    let failing : Handler := fun _ _ => .fail (.handlerFailed "no")
    ∃ e₀, mount form false false = .ok e₀ ∧
      (e₀.performAll maxDepth (some failing) [.set "q" (.text "a"), .submit, .reset]).IsHome := by
  intro form failing
  have hm : mount form false false = .ok _ := rfl
  refine ⟨_, hm, (home_iff_last_submit_validates hm 199 (some failing) _).2 fun before hb => ?_⟩
  have hb' : LastSubmit before ([.set "q" (.text "a")] ++ [.submit]) :=
    (lastSubmit_append (by simp)).1 hb
  obtain rfl := lastSubmit_submit.1 hb'
  rintro ⟨p, hp, -, n, hn, -⟩
  obtain rfl := List.mem_singleton.1 hp
  cases hn

/-- A number of 4301 digits in a field of text keeps its form from coming home:
    after the submit it validates for good, and a reset leaves the history so. -/
theorem long_integer_stays_validating :
    let form : Form := { fields := [{ name := "q", label := "Query", type := .declared .text }] }
    ∃ e₀, mount form true false = .ok e₀ ∧
      let e := e₀.performAll maxDepth none [.set "q" (.int (Nat.pow 10 4300)), .submit]
      e.state.status = .validating ∧ e.history = [.idle, .validating] ∧ ¬ e.IsHome ∧
        ¬ e.reset.IsHome := by
  intro form
  have hm : mount form true false = .ok _ := rfl
  refine ⟨_, hm, ?_⟩
  intro e
  have hs : e.state.status = .validating := by decide +kernel
  have hh : e.history = [.idle, .validating] := by decide +kernel
  clear_value e
  refine ⟨hs, hh, fun h => ?_, fun h => ?_⟩
  · simp [IsHome, hh] at h
  · simp [IsHome, history_reset, hh] at h

end Formulary.Engine
