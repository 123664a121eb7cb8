/-
  The gate before the handler: what is handed to it, and when.

  `calls_alternate_with_valid`: over every run, the calls of the handler and the
  steps to valid alternate; a call comes right after the verdict of the submit
  that makes it, has the data of that verdict, and nothing else makes one.
-/
import Formulary.Proofs.Engine.Run
import Formulary.Proofs.Fallible

namespace Formulary

/-- Whether an event is a step to valid or a call of the handler. -/
def Event.isGate : Event → Bool
  | .moved .valid | .called _ _ => true
  | _ => false

theorem Event.isGate_eq_false {ev : Event} (h : ev.status? = none ∧ ev.call? = none) :
    ev.isGate = false := by
  obtain ⟨hs, hc⟩ := h
  cases ev with
  | moved s => cases hs
  | called data s => cases hc
  | _ => rfl

namespace Engine

/-- A submit that begins at some point between two forms, right after which the
    events end, finds the values valid and takes them as the data. -/
def Admitted (e e' : Engine) (before : List Event) (data : Entries) : Prop :=
  ∃ x r, e.Reaches x ∧ x.Reaches e' ∧
    before = x.events ++ [.moved .validating, .validated r, .moved .valid] ∧
    e.schema.validate x.state.values = .ok r ∧ r.isValid = true ∧ r.data = some data

/-- What is added to the events from one form to another calls the handler only
    through the gate. -/
structure GatedBy (handler? : Option Handler) (e e' : Engine) (added : List Event) : Prop where
  events : e'.events = e.events ++ added
  reaches : e.Reaches e'
  paired : handler?.isSome → added.filter Event.isGate =
    (added.filterMap Event.call?).flatMap fun c => [.moved .valid, .called c.1 c.2]
  uncalled : handler? = none → added.filterMap Event.call? = []
  admitted : ∀ before data s after, added = before ++ .called data s :: after →
    s = .valid ∧ Admitted e e' (e.events ++ before) data

section
variable {handler? : Option Handler} {a b c e e' : Engine} {added added' : List Event}

theorem Admitted.mono {before : List Event} {data : Entries} (h : Admitted b c before data)
    (hab : a.Reaches b) {d : Engine} (hcd : c.Reaches d) : Admitted a d before data := by
  obtain ⟨x, r, h₁, h₂, h⟩ := h
  rw [hab.schema_eq] at h
  exact ⟨x, r, hab.trans h₁, h₂.trans hcd, h⟩

theorem filterMap_call_of_no_gate (hn : ∀ ev ∈ added, ev.isGate = false) :
    added.filterMap Event.call? = [] := by
  rw [List.filterMap_eq_nil_iff]
  intro ev hev
  cases ev with
  | called data s => exact absurd (hn _ hev) (by simp [Event.isGate])
  | _ => rfl

theorem GatedBy.of_no_gate (he : e'.events = e.events ++ added) (hr : e.Reaches e')
    (hn : ∀ ev ∈ added, ev.isGate = false) : GatedBy handler? e e' added where
  events := he
  reaches := hr
  paired _ := by
    rw [filterMap_call_of_no_gate hn, List.flatMap_nil, List.filter_eq_nil_iff]
    exact fun ev hev => by simp [hn ev hev]
  uncalled _ := filterMap_call_of_no_gate hn
  admitted before data s after h := by
    have := hn (.called data s) (by simp [h])
    simp [Event.isGate] at this

theorem GatedBy.trans (h : GatedBy handler? a b added) (h' : GatedBy handler? b c added') :
    GatedBy handler? a c (added ++ added') where
  events := by rw [h'.events, h.events, List.append_assoc]
  reaches := h.reaches.trans h'.reaches
  paired hs := by
    rw [List.filter_append, List.filterMap_append, List.flatMap_append, h.paired hs, h'.paired hs]
  uncalled hs := by rw [List.filterMap_append, h.uncalled hs, h'.uncalled hs]; rfl
  admitted before data s after he := by
    -- the call is among the first events or among the second
    have second : ∀ xs, added' = xs ++ .called data s :: after → before = added ++ xs →
        s = .valid ∧ Admitted a c (a.events ++ before) data := by
      intro xs hx hb
      obtain ⟨hs, had⟩ := h'.admitted xs data s after hx
      rw [h.events, List.append_assoc, ← hb] at had
      exact ⟨hs, had.mono h.reaches .refl⟩
    rcases List.append_eq_append_iff.1 he with ⟨xs, hb, hx⟩ | ⟨xs, ha, hx⟩
    · exact second xs hx hb
    · cases xs with
      | nil => exact second [] hx.symm (by simpa using ha.symm)
      | cons ev xs =>
        obtain ⟨rfl, rfl⟩ := List.cons.inj hx
        obtain ⟨hs, had⟩ := h.admitted before data s xs ha
        exact ⟨hs, had.mono .refl h'.reaches⟩

end

/-- An operation but a submit has nothing to do with the gate. -/
theorem gatedBy_perform {op : Operation} (ho : op ≠ .submit) (handler? : Option Handler)
    (e : Engine) : ∃ added, GatedBy handler? e (e.perform 0 handler? op).1 added := by
  obtain ⟨added, he, hn⟩ := events_perform ho 0 handler?
  have hr := (tracks_reaches handler?).perform 0 e op
  exact ⟨added, .of_no_gate he hr fun ev hev => Event.isGate_eq_false (hn ev hev)⟩

/-- **Runs pass the gate.** -/
theorem tracks_gatedBy (handler? : Option Handler) :
    Tracks handler? fun e e' => ∃ added, GatedBy handler? e e' added := by
  have hR := tracks_reaches handler?
  refine ⟨fun e => ⟨[], .of_no_gate (by simp) .refl (by simp)⟩,
    fun ⟨_, h⟩ ⟨_, h'⟩ => ⟨_, h.trans h'⟩, ?set, ?validate, ?reset, ?fault, ?invalid, ?unhandled,
    ?called, ?returned⟩
  case set =>
    intro e name v
    have ho : Operation.set name v ≠ .submit := by simp
    exact gatedBy_perform ho handler? e
  case validate =>
    have ho : Operation.validate ≠ .submit := by simp
    exact gatedBy_perform ho handler?
  case reset =>
    have ho : Operation.reset ≠ .submit := by simp
    exact gatedBy_perform ho handler?
  case fault =>
    intro e f h
    exact ⟨[.moved .validating], .of_no_gate (by simp) (hR.fault h) (by simp [Event.isGate])⟩
  case invalid =>
    intro e r h hr
    exact ⟨[.moved .validating, .validated r, .moved .invalid, .moved .idle],
      .of_no_gate (by simp) (hR.invalid h hr) (by simp [Event.isGate])⟩
  case unhandled =>
    intro e r hn h hr
    refine ⟨[.moved .validating, .validated r, .moved .valid, .moved .idle],
      by simp, hR.unhandled hn h hr, by simp [hn], fun _ => rfl, fun before data s after hx => ?_⟩
    have : Event.called data s ∈ before ++ .called data s :: after := by simp
    simp [← hx] at this
  case called =>
    intro e r hs h hr
    obtain ⟨data, hd⟩ := Schema.data_of_validate h hr
    refine ⟨[.moved .validating, .validated r, .moved .valid, .called data .valid],
      by simp [hd], hR.called hs h hr, fun _ => rfl, fun hn => by simp [hn] at hs,
      fun before data' s after hx => ?_⟩
    -- the only call among them is the last
    match before, hx with
    | [_, _, _], hx =>
      simp only [List.cons_append, List.nil_append, List.cons.injEq, Event.called.injEq] at hx
      obtain ⟨rfl, rfl, rfl, ⟨rfl, rfl⟩, -⟩ := hx
      exact ⟨rfl, e, r, .refl, hR.called hs h hr, rfl, h, hr, hd⟩
    | [], hx | [_], hx | [_, _], hx | _ :: _ :: _ :: _ :: _, hx => simp at hx
  case returned =>
    intro e s
    exact ⟨[.moved .idle], .of_no_gate (by simp) (hR.returned e s) (by simp [Event.isGate])⟩

/-! ## Operations that make no call -/

/-- Only a submit with a valid verdict calls the handler. -/
theorem calls_perform {e : Engine} {op : Operation}
    (h : ∀ r, op = .submit → e.schema.validate e.state.values = .ok r → r.isValid = false)
    (depth : Nat) (handler? : Option Handler) :
    (e.perform depth handler? op).1.calls = e.calls := by
  have no_call : ∀ (e' : Engine) (added : List Event), e'.events = e.events ++ added →
      (∀ ev ∈ added, ev.call? = none) → e'.calls = e.calls := by
    intro e' added he hn
    rw [calls_eq, calls_eq, he, List.filterMap_append, List.filterMap_eq_nil_iff.2 hn,
      List.append_nil]
  by_cases ho : op = .submit
  · subst ho
    cases depth with
    | zero => rfl
    | succ depth =>
      cases hv : e.schema.validate e.state.values with
      | error f =>
        refine no_call _ [.moved .validating] ?_ (by simp [Event.call?])
        rw [perform, submitWithin_fault depth hv]; simp
      | ok r =>
        have hr := h r rfl hv
        refine no_call _ [.moved .validating, .validated r, .moved .invalid, .moved .idle] ?_
          (by simp [Event.call?])
        rw [perform, submitWithin_ok depth hv, conclude_invalid hr]; simp
  · obtain ⟨added, he, hn⟩ := events_perform ho depth handler?
    exact no_call _ added he fun ev hev => (hn ev hev).2

/-- A submit that gives a result gives its verdict. -/
theorem verdict_of_submitWithin {e : Engine} {depth : Nat} {handler? : Option Handler} {r : Result}
    (h : (e.submitWithin handler? depth).2 = .ok r) : e.schema.validate e.state.values = .ok r := by
  cases depth with
  | zero => cases h
  | succ depth =>
    cases hv : e.schema.validate e.state.values with
    | error f => rw [submitWithin_fault depth hv] at h; cases h
    | ok r' =>
      rw [submitWithin_ok depth hv] at h
      cases hr : r'.isValid with
      | false => rw [conclude_invalid hr] at h; exact h
      | true =>
        cases handler? with
        | none => rw [conclude_unhandled hr] at h; exact h
        | some handler =>
          rw [conclude_handled hr] at h
          obtain ⟨_, -, h⟩ := map_eq_ok.1 h
          rw [h]

/-! ## The gate -/

/-- Of the statuses of events, those that are valid are steps through the gate. -/
theorem count_valid (l : List Event) : (l.filterMap Event.status?).count .valid =
    ((l.filter Event.isGate).filterMap Event.status?).length := by
  induction l with
  | nil => rfl
  | cons ev l ih =>
    rw [List.filterMap_cons, List.filter_cons]
    cases ev with
    | moved s => cases s <;> simp [Event.isGate, Event.status?, ih]
    | _ => simp [Event.isGate, Event.status?, List.filterMap_cons, ih]

/-- **Submission gate.**  Over every run on a mounted form, with a handler the
    steps to valid and the calls alternate, and without one there are no calls.
    A call is made in status valid, right after a submit has found the values
    it began with valid, and has the data of that verdict; no operation but a
    submit with a valid verdict makes one. -/
theorem calls_alternate_with_valid {form : Form} {strict traced : Bool} {e₀ : Engine}
    (hm : Engine.mount form strict traced = .ok e₀) (depth : Nat) (handler? : Option Handler)
    (ops : List Operation) :
    let e := e₀.performAll depth handler? ops
    (handler?.isSome →
      e.events.filter Event.isGate =
        e.calls.flatMap (fun c => [.moved .valid, .called c.1 c.2]) ∧
      e.history.count .valid = e.calls.length) ∧
    (handler? = none → e.calls = []) ∧
    (∀ before data s after, e.events = before ++ .called data s :: after →
      s = .valid ∧ Admitted e₀ e before data) ∧
    ∀ op, (op = .submit →
        ∃ r, (e.perform depth handler? op).2 = .ok (some r) ∧ r.isValid = false) →
      (e.perform depth handler? op).1.calls = e.calls := by
  intro e
  obtain ⟨added, h⟩ := (tracks_gatedBy handler?).performAll depth ops e₀
  have h₀ : e₀.events = [] := by
    obtain ⟨schema, -, hs⟩ := bind_eq_ok.1 hm
    cases hs; rfl
  have he : e.events = added := by rw [h.events, h₀]; rfl
  refine ⟨fun hs => ?_, fun hs => ?_, ?_, ?_⟩
  · have hp := h.paired hs
    rw [← he, ← calls_eq] at hp
    refine ⟨hp, ?_⟩
    rw [history_eq, List.count_cons, count_valid, hp]
    induction e.calls with
    | nil => rfl
    | cons c cs ih => simpa [Event.status?, List.filterMap_cons] using ih
  · rw [calls_eq, he, h.uncalled hs]
  · intro before data s after hb
    simpa [h₀] using h.admitted before data s after (he ▸ hb)
  · intro op hop
    refine calls_perform (fun r ho hv => ?_) depth handler?
    obtain ⟨r', hr', hi⟩ := hop ho
    subst ho
    obtain ⟨r'', hr'', hrr⟩ := map_eq_ok.1 hr'
    cases hrr
    have hv' := verdict_of_submitWithin hr''
    rw [hv] at hv'
    cases hv'
    exact hi

/-- A handler that submits once more makes two calls, one for each step to
    valid. -/
theorem calls_alternate_with_valid_resubmitted :
    let form : Form := { fields := [{ name := "q", label := "Query", type := .declared .text }] }
    let again : Handler := fun log _ =>
      if (log.filterMap Event.call?).length = 1 then .submit fun _ => .done else .done
    ∃ e₀, Engine.mount form false false = .ok e₀ ∧
      let e := e₀.performAll 2 (some again) [.set "q" (.text "a"), .submit]
      e.calls = [([("q", .text "a")], .valid), ([("q", .text "a")], .valid)] ∧
        e.history.count .valid = 2 := by
  intro form again
  have hm : Engine.mount form false false = .ok _ := rfl
  refine ⟨_, hm, ?_⟩
  intro e
  have hc : e.calls = [([("q", .text "a")], .valid), ([("q", .text "a")], .valid)] := by
    decide +kernel
  have hg := calls_alternate_with_valid hm 2 (some again) [.set "q" (.text "a"), .submit]
  exact ⟨hc, (hg.1 rfl).2.trans (congrArg List.length hc)⟩

end Engine
end Formulary
