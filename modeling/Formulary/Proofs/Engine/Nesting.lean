/-
  The spans of a submit: what begins in it ends in it, the last one begun first.

  * `Event.openAfter` are the spans that are open after events, and
    `Event.Balanced` are events after which those are open that were before, and
    none of these was closed on the way;
  * `Engine.spans` is what a submit leaves in a trace: one span for the whole,
    and in it one for the validation and perhaps one for the handler, with all
    that the submits of the handler leave;
  * `trace_is_nested`: a submit leaves this, however it and its handler end, and
    it is balanced; a form that is not traced leaves nothing.
-/
import Formulary.Proofs.Engine.History

namespace Formulary

/-! ## Balanced events -/

namespace Event

/-- The spans that are open after events, the last one begun first, given those
    that were open before.  If another than the last one begun ends, there is no
    telling. -/
def openAfter : List Span → List Event → Option (List Span)
  | spans, [] => some spans
  | spans, .opened s :: es => openAfter (s :: spans) es
  | [], .closed _ :: _ => none
  | s' :: spans, .closed s :: es => if s = s' then openAfter spans es else none
  | spans, _ :: es => openAfter spans es

/-- Whether each span that begins in events ends in them, the last one begun
    first, and none ends that began before. -/
def Balanced (es : List Event) : Prop := ∀ spans, openAfter spans es = some spans

theorem openAfter_append (es es' : List Event) : ∀ spans,
    openAfter spans (es ++ es') = (openAfter spans es).bind fun spans => openAfter spans es' := by
  induction es with
  | nil => exact fun spans => rfl
  | cons ev es ih =>
    intro spans
    cases ev with
    | opened s => exact ih (s :: spans)
    | closed s =>
      cases spans with
      | nil => rfl
      | cons s' spans =>
        simp only [List.cons_append, openAfter]
        split
        · exact ih spans
        · rfl
    | set | reset | validated | moved | called => exact ih spans

namespace Balanced
variable {es es' : List Event}

theorem nil : Balanced [] := fun _ => rfl

theorem append (h : Balanced es) (h' : Balanced es') : Balanced (es ++ es') := by
  intro spans
  rw [openAfter_append, h spans]
  exact h' spans

/-- What is balanced may stand within a span. -/
theorem within (h : Balanced es) (s : Span) : Balanced (.opened s :: es ++ [.closed s]) := by
  intro spans
  rw [openAfter_append, openAfter, h (s :: spans)]
  simp [openAfter]

theorem flatMap {α : Type} {f : α → List Event} : ∀ {l : List α}, (∀ a ∈ l, Balanced (f a)) →
    Balanced (l.flatMap f)
  | [], _ => nil
  | a :: l, h => by
    rw [List.flatMap_cons]
    exact (h a List.mem_cons_self).append (flatMap fun b hb => h b (List.mem_cons_of_mem a hb))

end Balanced
end Event

namespace Engine

/-! ## The trace of each operation -/

section
variable (e : Engine) (s : Status) (sp : Span) (ev : Event)

theorem trace_note : (e.note ev).trace = e.trace ++ if ev.isSpan then [ev] else [] := by
  cases h : ev.isSpan <;> simp [trace, note, h]

theorem trace_moveTo : (e.moveTo s).trace = e.trace :=
  (trace_note _ (.moved s)).trans (List.append_nil _)

theorem trace_enter : (e.enter sp).trace = e.trace ++ if e.traced then [.opened sp] else [] := by
  unfold enter
  cases e.traced
  · exact (List.append_nil _).symm
  · exact trace_note e (.opened sp)

theorem trace_leave : (e.leave sp).trace = e.trace ++ if e.traced then [.closed sp] else [] := by
  unfold leave
  cases e.traced
  · exact (List.append_nil _).symm
  · exact trace_note e (.closed sp)

theorem trace_set (name : String) (v : Value) : (e.set name v).1.trace = e.trace := by
  cases h : e.state.set name v with
  | ok s => rw [set_ok h]; exact (trace_note _ (.set name v)).trans (List.append_nil _)
  | error f => rw [set_error h]

theorem trace_validate : e.validate.1.trace = e.trace := by
  cases h : e.schema.validate e.state.values with
  | ok r => rw [validate_ok h]; exact (trace_note _ (.validated r)).trans (List.append_nil _)
  | error f => rw [validate_error h]

theorem trace_reset : e.reset.trace = e.trace :=
  (trace_note _ .reset).trans (List.append_nil _)

theorem trace_begun :
    e.begun.trace = e.trace ++ if e.traced then [.opened e.whole, .opened e.part] else [] := by
  have ht : ((e.enter e.whole).moveTo .validating).traced = e.traced := (reaches_enter e _).traced_eq
  rw [begun, trace_enter, trace_moveTo, trace_enter, ht]
  cases e.traced <;> simp

theorem trace_judged {r : Result} (h : e.schema.validate e.state.values = .ok r) :
    (e.judged r).trace =
      e.trace ++ if e.traced then [.opened e.whole, .opened e.part, .closed e.part] else [] := by
  have hv := begun_validate_ok h
  have ht : e.begun.validate.1.traced = e.traced :=
    Reaches.traced_eq ((reaches_begun e).trans (reaches_validate _))
  have hb := trace_validate e.begun
  rw [hv] at ht hb
  rw [judged, trace_leave, ht, hb, trace_begun]
  cases e.traced <;> simp

theorem trace_called {r : Result} (h : e.schema.validate e.state.values = .ok r) :
    (e.called r).trace = e.trace ++ if e.traced then
      [.opened e.whole, .opened e.part, .closed e.part, .opened .handler] else [] := by
  have ht : ((e.judged r).moveTo .valid).traced = e.traced := (reaches_judged e h).traced_eq
  have hn : ∀ (x : Engine) data s, (x.note (.called data s)).trace = x.trace := fun x data s =>
    (trace_note _ (.called data s)).trans (List.append_nil _)
  rw [called, calling, hn, trace_enter, ht, trace_moveTo, trace_judged e h]
  cases e.traced <;> simp

end

/-! ## Submits -/

/-- The verdict with which a submit goes on to the handler, if it does. -/
def handled? (handler? : Option Handler) (e : Engine) : Option Result :=
  match e.schema.validate e.state.values with
  | .ok r => if r.isValid && handler?.isSome then some r else none
  | .error _ => none

/-- The spans that a submit leaves in a trace, submits nested to a depth: in the
    span of the whole that of the validation and, if it goes on to the handler,
    then that of the handler, which holds those of the submits that the handler
    makes. -/
def spans (handler? : Option Handler) : Nat → Engine → List Event
  | 0, _ => []
  | depth + 1, e =>
    .opened e.whole :: ([.opened e.part, .closed e.part] ++
      match e.handled? handler? with
      | some r =>
        .opened .handler :: (e.nested handler? depth r).flatMap (spans handler? depth)
          ++ [.closed .handler]
      | none => [])
      ++ [.closed e.whole]

section
variable {e : Engine} {handler? : Option Handler} {r : Result} {f : Fault}

theorem handled?_eq_some : e.handled? handler? = some r ↔
    e.schema.validate e.state.values = .ok r ∧ r.isValid = true ∧ handler?.isSome = true := by
  unfold handled?
  cases hv : e.schema.validate e.state.values with
  | error f => simp
  | ok r' =>
    dsimp only
    split
    · rename_i h
      rw [Bool.and_eq_true] at h
      rw [Option.some.injEq, Except.ok.injEq]
      exact ⟨fun he => he ▸ ⟨rfl, h⟩, fun he => he.1⟩
    · rename_i h
      refine iff_of_false nofun ?_
      rintro ⟨hr, h'⟩
      cases hr
      exact h (Bool.and_eq_true_iff.2 h')

/-- The handler submits forms that its own has become. -/
theorem reaches_of_mem_submits {submit : Engine → Engine × Except Fault Result}
    (hs : ∀ e : Engine, e.Reaches (submit e).1) (s : Script) :
    ∀ e, ∀ x ∈ s.submits submit e, e.Reaches x := by
  induction s with
  | done | fail => exact fun e x hx => absurd hx List.not_mem_nil
  | look next ih => exact fun e => ih e.state e
  | set name v next ih => exact fun e x hx => (reaches_set e name v).trans (ih _ _ x hx)
  | validate next ih => exact fun e x hx => (reaches_validate e).trans (ih _ _ x hx)
  | submit next ih =>
    intro e x hx
    rcases List.mem_cons.1 hx with rfl | hx
    · exact .refl
    · exact (hs e).trans (ih _ _ x hx)
  | reset next ih => exact fun e x hx => .head (.reset e) (ih _ x hx)

/-- The form that a handler leaves is traced if the one that it was called with
    is. -/
theorem traced_handled (h : e.schema.validate e.state.values = .ok r)
    (hs : e.handled? handler? = some r) (depth : Nat) :
    (e.handled handler? depth r).1.traced = e.traced := by
  have hR := tracks_reaches handler?
  obtain ⟨-, hr, hh⟩ := handled?_eq_some.1 hs
  exact Reaches.traced_eq ((hR.called hh h hr).trans (hR.run (hR.submitWithin depth) _ _))

/-- A submit that does not go on to the handler leaves two spans. -/
theorem trace_unhandled (hs : e.handled? handler? = none) (depth : Nat) :
    (e.submitWithin handler? (depth + 1)).1.trace = e.trace ++ if e.traced then
      [.opened e.whole, .opened e.part, .closed e.part, .closed e.whole] else [] := by
  -- a submit that has a verdict ends with two steps of the status
  have judged {r : Result} (hv : e.schema.validate e.state.values = .ok r) (s : Status) :
      ((((e.judged r).moveTo s).moveTo .idle).leave e.whole).trace = e.trace ++ if e.traced then
        [.opened e.whole, .opened e.part, .closed e.part, .closed e.whole] else [] := by
    have ht : (((e.judged r).moveTo s).moveTo .idle).traced = e.traced :=
      (reaches_judged e hv).traced_eq
    rw [trace_leave, ht, trace_moveTo, trace_moveTo, trace_judged e hv]
    cases e.traced <;> simp
  cases hv : e.schema.validate e.state.values with
  | error f =>
    have ht : e.begun.traced = e.traced := (reaches_begun e).traced_eq
    have ht' : (e.begun.leave e.part).traced = e.begun.traced := (reaches_leave _ _).traced_eq
    rw [submitWithin_fault depth hv, trace_leave, trace_leave, trace_begun, ht', ht]
    cases e.traced <;> simp
  | ok r =>
    rw [submitWithin_ok depth hv]
    cases hr : r.isValid with
    | false => rw [conclude_invalid hr]; exact judged hv _
    | true =>
      cases handler? with
      | none => rw [conclude_unhandled hr]; exact judged hv _
      | some handler =>
        rw [handled?_eq_some.2 ⟨hv, hr, rfl⟩] at hs
        cases hs

/-- A submit that goes on to the handler leaves what the handler leaves. -/
theorem trace_handled (hs : e.handled? handler? = some r) (depth : Nat) :
    (e.submitWithin handler? (depth + 1)).1.trace = (e.handled handler? depth r).1.trace ++
      if e.traced then [.closed .handler, .closed e.whole] else [] := by
  obtain ⟨hv, hr, hh⟩ := handled?_eq_some.1 hs
  obtain ⟨handler, rfl⟩ := Option.isSome_iff_exists.1 hh
  have ht := traced_handled hv hs depth
  have ht' : (((e.handled (some handler) depth r).1.leave .handler).moveTo .idle).traced = e.traced := by
    rw [← ht]; exact Reaches.traced_eq ((reaches_leave _ _).tail (.move _ _))
  rw [submitWithin_ok depth hv, conclude_handled hr]
  change ((((e.handled (some handler) depth r).1.leave .handler).moveTo .idle).leave e.whole).trace = _
  rw [trace_leave, ht', trace_moveTo, trace_leave, ht]
  cases e.traced <;> simp

/-- A submit leaves its spans: by induction on the depth to which submits nest. -/
theorem trace_submitWithin (depth : Nat) : ∀ e : Engine,
    (e.submitWithin handler? depth).1.trace =
      e.trace ++ if e.traced then e.spans handler? depth else [] := by
  induction depth with
  | zero => intro e; simp [submitWithin, spans]
  | succ depth ih =>
    intro e
    cases hs : e.handled? handler? with
    | none => rw [trace_unhandled hs, spans, hs]; rfl
    | some r =>
      obtain ⟨hv, hr, hh⟩ := handled?_eq_some.1 hs
      -- the forms that the handler submits are traced if the one that it serves is
      have htraced : ∀ x ∈ e.nested handler? depth r, x.traced = e.traced := by
        have hR := tracks_reaches handler?
        intro x hx
        have hx := reaches_of_mem_submits (hR.submitWithin depth) _ _ x hx
        exact Reaches.traced_eq ((hR.called hh hv hr).trans hx)
      have hrun : (e.handled handler? depth r).1.trace = (e.called r).trace ++
          (e.nested handler? depth r).flatMap fun x =>
            if x.traced then x.spans handler? depth else [] :=
        view_run trace_set trace_validate trace_reset ih _ _
      rw [trace_handled hs, hrun, trace_called e hv, spans, hs]
      cases ht : e.traced with
      | false =>
        have : ((e.nested handler? depth r).flatMap fun x =>
            if x.traced then x.spans handler? depth else []) = [] :=
          List.flatMap_eq_nil_iff.2 fun x hx => by simp [htraced x hx, ht]
        simp [this]
      | true =>
        have : ((e.nested handler? depth r).flatMap fun x =>
            if x.traced then x.spans handler? depth else []) =
              (e.nested handler? depth r).flatMap (spans handler? depth) :=
          List.flatMap_congr fun x hx => by simp [htraced x hx, ht]
        simp [this]

/-- What a submit leaves in a trace is balanced. -/
theorem balanced_spans (depth : Nat) : ∀ e : Engine, Event.Balanced (e.spans handler? depth) := by
  induction depth with
  | zero => exact fun e => .nil
  | succ depth ih =>
    intro e
    have hpart : Event.Balanced [.opened e.part, .closed e.part] := Event.Balanced.nil.within e.part
    refine Event.Balanced.within (hpart.append ?_) e.whole
    cases e.handled? handler? with
    | none => exact .nil
    | some r => exact Event.Balanced.within (.flatMap fun x _ => ih x) .handler

end

/-- **Spans are nested.**  What a submit adds to the trace of a form that is traced
    is balanced, whatever the form and the handler, and however they end: a span
    for the whole, and in it one for the validation and then, iff the values are
    valid and there is a handler, one for the handler, which holds all that the
    submits of the handler add, and nothing else.  A form that is not traced is
    added nothing. -/
theorem trace_is_nested (handler? : Option Handler) (depth : Nat) (e : Engine) :
    (e.submitWithin handler? depth).1.trace =
      e.trace ++ (if e.traced then e.spans handler? depth else []) ∧
    Event.Balanced (e.spans handler? depth) ∧
    (∀ r, e.schema.validate e.state.values = .ok r → r.isValid = true → handler?.isSome = true →
      e.spans handler? (depth + 1) =
        [.opened e.whole, .opened e.part, .closed e.part, .opened .handler] ++
          (e.nested handler? depth r).flatMap (spans handler? depth) ++
          [.closed .handler, .closed e.whole]) ∧
    ((∀ r, e.schema.validate e.state.values = .ok r → r.isValid = true → handler? = none) →
      e.spans handler? (depth + 1) =
        [.opened e.whole, .opened e.part, .closed e.part, .closed e.whole]) := by
  refine ⟨trace_submitWithin depth e, balanced_spans depth e, fun r hv hr hh => ?handled,
    fun hn => ?unhandled⟩
  case handled =>
    rw [spans, handled?_eq_some.2 ⟨hv, hr, hh⟩]
    simp
  case unhandled =>
    have hs : e.handled? handler? = none := by
      refine Option.eq_none_iff_forall_ne_some.2 fun r hs => ?_
      obtain ⟨hv, hr, hh⟩ := handled?_eq_some.1 hs
      rw [hn r hv hr] at hh
      cases hh
    rw [spans, hs]
    rfl

/-- A handler that submits a wrong value before it fails: the spans of its submit
    lie in its own, and all of them end. -/
theorem trace_is_nested_failing :
    let field : Field :=
      { name := "q", label := "Query", type := .declared .text,
        rules := [⟨.required, .null, "What for?"⟩] }
    let form : Form := { title := some "Search", fields := [field] }
    let again : Handler := fun _ _ =>
      .set "q" (.text "") fun _ => .submit fun _ => .fail (.handlerFailed "no")
    let within : List Event :=
      [.opened (.submit "Search"), .opened (.validation 1), .closed (.validation 1),
        .closed (.submit "Search")]
    let added : List Event :=
      [.opened (.submit "Search"), .opened (.validation 1), .closed (.validation 1),
        .opened .handler] ++ within ++ [.closed .handler, .closed (.submit "Search")]
    ∃ e₀, mount form false true = .ok e₀ ∧
      let e := (e₀.set "q" (.text "a")).1
      (e.submitWithin (some again) maxDepth).1.trace = added ∧ Event.Balanced added := by
  intro field form again within added
  have hm : mount form false true = .ok _ := rfl
  refine ⟨_, hm, ?_⟩
  intro e
  obtain ⟨ht, hb, -⟩ := trace_is_nested (some again) maxDepth e
  have ha : e.spans (some again) maxDepth = added := by decide +kernel
  rw [ha] at ht hb
  exact ⟨ht, hb⟩

end Engine
end Formulary
