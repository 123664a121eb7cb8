/-
  Resetting a form: it goes on like one that has just been mounted.

  What happened to a form before is in its log and nowhere else, and the log is
  read by no operation and by a handler only that cares for it.

  * `Engine.withPast` puts events before all that a form has in its log;
  * `withPast_perform`: with a handler that goes by the data and by what it sees
    of the form, no operation cares for them, nested submits included;
  * `reset_is_fresh`: a form that is reset after any run, and one that is
    mounted anew, give the same results, have the same states and add the same
    to their logs.
-/
import Formulary.Proofs.Engine.Home

namespace Formulary

/-- Whether a handler goes by the data and by what it sees of the form, and not
    by the log. -/
def Handler.IsForgetful (h : Handler) : Prop := ∀ log log' data, h log data = h log' data

namespace Engine

/-- A form with these events, the latest first, before all that is in its log. -/
def withPast (e : Engine) (past : List Event) : Engine := { e with log := e.log ++ past }

/-- Whether a submit does the same whatever was in the log before. -/
def IgnoresPast (submit : Engine → Engine × Except Fault Result) : Prop :=
  ∀ e past, submit (e.withPast past) = ((submit e).1.withPast past, (submit e).2)

/-! ## Parts of operations -/

section
variable (e : Engine) (past : List Event) (s : Status) (sp : Span)

@[simp] theorem withPast_form : (e.withPast past).form = e.form := rfl
@[simp] theorem withPast_schema : (e.withPast past).schema = e.schema := rfl
@[simp] theorem withPast_state : (e.withPast past).state = e.state := rfl

theorem withPast_moveTo : (e.withPast past).moveTo s = (e.moveTo s).withPast past := rfl

theorem withPast_enter : (e.withPast past).enter sp = (e.enter sp).withPast past := by
  unfold enter
  cases h : e.traced <;> simp [withPast, note, h]

theorem withPast_leave : (e.withPast past).leave sp = (e.leave sp).withPast past := by
  unfold leave
  cases h : e.traced <;> simp [withPast, note, h]

theorem withPast_begun : (e.withPast past).begun = e.begun.withPast past := by
  simp only [begun, whole, part, withPast_form, withPast_schema, withPast_enter, withPast_moveTo]

theorem withPast_judged (r : Result) :
    (e.withPast past).judged r = (e.judged r).withPast past := by
  unfold judged
  rw [withPast_begun]
  exact withPast_leave ({ e.begun with state := e.begun.state.record r }.note (.validated r)) _ _

theorem withPast_calling (data : Entries) :
    (e.withPast past).calling data = (e.calling data).withPast past := by
  unfold calling
  rw [withPast_enter]
  rfl

end

/-! ## Operations -/

section
variable (e : Engine) (past : List Event)

theorem withPast_set (name : String) (v : Value) :
    (e.withPast past).set name v = ((e.set name v).1.withPast past, (e.set name v).2) := by
  cases h : e.state.set name v with
  | ok s =>
    have hp : (e.withPast past).state.set name v = .ok s := h
    rw [set_ok h, set_ok hp]
    rfl
  | error f =>
    have hp : (e.withPast past).state.set name v = .error f := h
    rw [set_error h, set_error hp]

theorem withPast_validate :
    (e.withPast past).validate = (e.validate.1.withPast past, e.validate.2) := by
  cases h : e.schema.validate e.state.values with
  | ok r =>
    have hp : (e.withPast past).schema.validate (e.withPast past).state.values = .ok r := h
    rw [validate_ok h, validate_ok hp]
    rfl
  | error f =>
    have hp : (e.withPast past).schema.validate (e.withPast past).state.values = .error f := h
    rw [validate_error h, validate_error hp]

/-- A script ignores what its submits ignore. -/
theorem withPast_run {submit : Engine → Engine × Except Fault Result} (hs : IgnoresPast submit)
    (script : Script) : script.run submit (e.withPast past) =
      ((script.run submit e).1.withPast past, (script.run submit e).2) := by
  induction script generalizing e with
  | done => rfl
  | fail f => rfl
  | look next ih => exact ih e.state e
  | set name v next ih =>
    rw [Script.run, withPast_set]
    exact ih _ _
  | validate next ih =>
    rw [Script.run, withPast_validate]
    exact ih _ _
  | submit next ih =>
    rw [Script.run, hs]
    exact ih _ _
  | reset next ih => exact ih e.reset

end

section
variable {handler? : Option Handler} (hf : ∀ h ∈ handler?, h.IsForgetful)
include hf

/-- What follows the validation of a submit ignores the past, if the submits
    that are nested do. -/
theorem withPast_conclude {submit : Engine → Engine × Except Fault Result}
    (hs : IgnoresPast submit) (r : Result) (e : Engine) (past : List Event) :
    (e.withPast past).conclude submit handler? r =
      ((e.conclude submit handler? r).1.withPast past, (e.conclude submit handler? r).2) := by
  cases hr : r.isValid with
  | false =>
    rw [conclude_invalid hr, conclude_invalid hr]
    rfl
  | true =>
    cases handler? with
    | none =>
      rw [conclude_unhandled hr, conclude_unhandled hr]
      rfl
    | some h =>
      -- the handler is told of another log, and chooses the same script
      have hh : ∀ x : Engine, h (x.withPast past).log = h x.log :=
        fun x => funext fun data => hf h rfl _ _ data
      rw [conclude_handled hr, conclude_handled hr]
      dsimp only
      rw [withPast_moveTo, withPast_calling, hh, withPast_run _ past hs, withPast_leave,
        withPast_moveTo]

theorem ignoresPast_submitWithin (depth : Nat) : IgnoresPast (submitWithin handler? depth) := by
  induction depth with
  | zero => exact fun e past => rfl
  | succ depth ih =>
    intro e past
    have hw : (e.withPast past).whole = e.whole := rfl
    have hp : (e.withPast past).part = e.part := rfl
    cases h : e.schema.validate e.state.values with
    | error f =>
      have hv : (e.withPast past).schema.validate (e.withPast past).state.values = .error f := h
      rw [submitWithin_fault depth h, submitWithin_fault depth hv, withPast_begun, hw, hp,
        withPast_leave, withPast_leave]
    | ok r =>
      have hv : (e.withPast past).schema.validate (e.withPast past).state.values = .ok r := h
      rw [submitWithin_ok depth h, submitWithin_ok depth hv, withPast_judged,
        withPast_conclude hf ih, hw, withPast_leave]

/-- **No operation cares for what was before**, if the handler does not. -/
theorem withPast_perform (depth : Nat) (op : Operation) (e : Engine) (past : List Event) :
    (e.withPast past).perform depth handler? op =
      ((e.perform depth handler? op).1.withPast past, (e.perform depth handler? op).2) := by
  cases op with
  | set name v => simp only [perform, withPast_set]
  | validate => simp only [perform, withPast_validate]
  | submit => simp only [perform, ignoresPast_submitWithin hf depth e past]
  | reset => rfl

theorem withPast_performAll (depth : Nat) (ops : List Operation) (e : Engine)
    (past : List Event) :
    (e.withPast past).performAll depth handler? ops =
      (e.performAll depth handler? ops).withPast past := by
  induction ops generalizing e with
  | nil => rfl
  | cons op ops ih =>
    rw [performAll, List.foldl_cons, withPast_perform hf]
    exact ih _

end

/-! ## What is added to a log -/

section
variable (e : Engine) (past : List Event)

theorem withPast_history :
    (e.withPast past).history =
      .idle :: (past.reverse.filterMap Event.status? ++ e.log.reverse.filterMap Event.status?) := by
  rw [history, withPast, List.reverse_append, List.filterMap_append]

theorem withPast_calls :
    (e.withPast past).calls =
      past.reverse.filterMap Event.call? ++ e.log.reverse.filterMap Event.call? := by
  rw [calls, withPast, List.reverse_append, List.filterMap_append]

theorem withPast_trace :
    (e.withPast past).trace =
      past.reverse.filter Event.isSpan ++ e.log.reverse.filter Event.isSpan := by
  rw [trace, withPast, List.reverse_append, List.filter_append]

end

/-! ## Forms mounted anew -/

theorem traced_of_mount {form : Form} {strict traced : Bool} {e : Engine}
    (h : mount form strict traced = .ok e) : e.traced = traced := by
  obtain ⟨schema, -, he⟩ := bind_eq_ok.1 h
  cases he
  rfl

/-- A form that is reset is one that is mounted anew, but for its log.  Strict or
    not, the schema of a form that can be mounted is the same. -/
theorem reset_eq_withPast {form : Form} {strict strict' traced : Bool} {e₀ fresh e : Engine}
    (hm : mount form strict traced = .ok e₀) (hf : mount form strict' traced = .ok fresh)
    (he : e₀.Reaches e) : e.reset = fresh.withPast (.reset :: e.log) := by
  obtain ⟨hs, hform, -, -⟩ := mount_eq_ok hm
  obtain ⟨hs', hform', hst', hl'⟩ := mount_eq_ok hf
  have hschema : e.schema = fresh.schema := by
    have h := (Schema.compile_eq_ok.1 hs).1
    have h' := (Schema.compile_eq_ok.1 hs').1
    exact he.schema_eq.trans (Except.ok.inj (h.symm.trans h'))
  have hfe : e.form = fresh.form := he.form_eq.trans (hform.trans hform'.symm)
  have ht : e.traced = fresh.traced := by
    rw [he.traced_eq, traced_of_mount hm, traced_of_mount hf]
  cases fresh
  simp_all [reset, note, withPast]

/-- **A reset is a fresh mount.**  Take a form that is reset after any run, with
    any handler, and one that is mounted anew, and perform the same operations
    on both, with a handler that goes by the data and by what it sees of the
    form.  After any number of them, both are in the same state; what they have
    added to the history, to the calls of the handler and to the trace is the
    same; and the next operation gives the same result or fault. -/
theorem reset_is_fresh {form : Form} {strict strict' traced : Bool} {e₀ fresh : Engine}
    (hm : mount form strict traced = .ok e₀) (hf : mount form strict' traced = .ok fresh)
    (depth : Nat) (earlier? : Option Handler) (ops : List Operation) {handler? : Option Handler}
    (hh : ∀ h ∈ handler?, h.IsForgetful) (more : List Operation) :
    let x := e₀.performAll depth earlier? (ops ++ [.reset])
    let a := x.performAll depth handler? more
    let b := fresh.performAll depth handler? more
    a.state = b.state ∧
    (∃ statuses, a.history = x.history ++ statuses ∧ b.history = fresh.history ++ statuses) ∧
    (∃ calls, a.calls = x.calls ++ calls ∧ b.calls = fresh.calls ++ calls) ∧
    (∃ spans, a.trace = x.trace ++ spans ∧ b.trace = fresh.trace ++ spans) ∧
    ∀ op, (a.perform depth handler? op).2 = (b.perform depth handler? op).2 := by
  intro x a b
  obtain ⟨past, hx⟩ : ∃ past, x = fresh.withPast past := by
    have he := (tracks_reaches earlier?).performAll depth ops e₀
    exact ⟨_, (performAll_concat depth earlier? e₀ ops .reset).trans (reset_eq_withPast hm hf he)⟩
  have ha : a = b.withPast past := by
    rw [← withPast_performAll hh, ← hx]
  have hl : fresh.log = [] := (mount_eq_ok hf).2.2.2
  refine ⟨by rw [ha, withPast_state], ⟨b.log.reverse.filterMap Event.status?, ?history, ?history'⟩,
    ⟨b.log.reverse.filterMap Event.call?, ?calls, ?calls'⟩,
    ⟨b.log.reverse.filter Event.isSpan, ?trace, ?trace'⟩, fun op => ?result⟩
  case history => rw [ha, hx, withPast_history, withPast_history, hl]; simp
  case history' => simp [history, hl]
  case calls => rw [ha, hx, withPast_calls, withPast_calls, hl]; simp
  case calls' => simp [calls, hl]
  case trace => rw [ha, hx, withPast_trace, withPast_trace, hl]; simp
  case trace' => simp [trace, hl]
  case result => rw [ha, withPast_perform hh]

/-- A number of 4301 digits keeps a form validating for good, and the history
    says so.  After a reset it takes a correction that the handler submits once
    more, as if it were new. -/
theorem reset_is_fresh_stuck :
    let form : Form := { fields := [{ name := "q", label := "Query", type := .declared .text }] }
    let correcting : Handler := fun _ _ => .look fun s =>
      if s.values = [("q", .text "a")] then
        .set "q" (.text "b") fun _ => .submit fun _ => .fail (.handlerFailed "no")
      else .done
    correcting.IsForgetful ∧ ∃ e₀, mount form true false = .ok e₀ ∧
      let x := e₀.performAll maxDepth none [.set "q" (.int (Nat.pow 10 4300)), .submit, .reset]
      let a := x.performAll maxDepth (some correcting) [.set "q" (.text "a"), .submit]
      x.history = [.idle, .validating] ∧
      a.history = x.history ++ [.validating, .valid, .validating, .valid, .idle, .idle] ∧
      a.calls = x.calls ++ [([("q", .text "a")], .valid), ([("q", .text "b")], .valid)] := by
  intro form correcting
  have hh : correcting.IsForgetful := fun _ _ _ => rfl
  have hs : ∀ h ∈ some correcting, h.IsForgetful := fun h hmem => Option.some.inj hmem ▸ hh
  have hm : mount form true false = .ok _ := rfl
  refine ⟨hh, _, hm, ?_⟩
  intro x a
  have hx : x.history = [.idle, .validating] := by decide +kernel
  obtain ⟨-, ⟨statuses, ha, hb⟩, ⟨calls, ha', hb'⟩, -⟩ :=
    reset_is_fresh hm hm maxDepth none [.set "q" (.int (Nat.pow 10 4300)), .submit] hs
      [.set "q" (.text "a"), .submit]
  refine ⟨hx, ha.trans (congrArg _ ?_), ha'.trans (congrArg _ ?_)⟩
  · exact List.append_cancel_left (hb.symm.trans (by decide +kernel))
  · exact List.append_cancel_left (hb'.symm.trans (by decide +kernel))

end Engine
end Formulary
