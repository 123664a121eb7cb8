/-
  The grammar of a history: one block for each submit, those of a handler's
  submits within the block of the submit that it serves.

  * `Block` is the tree of a submit, and `Block.statuses` what it leaves in the
    history, from left to right;
  * `Script.submits` and `Engine.submitted` are the forms that a handler and a
    run submit, in turn, and `Engine.block` is the block of such a submit;
  * `Block.Agrees` are the results that a submit with a block may have;
  * `history_is_blocks`: over every run the history is that of the blocks of its
    submits, and each of them agrees with the result of its submit.
-/
import Formulary.Proofs.Engine.Home

namespace Formulary

/-! ## Blocks -/

/-- The course of a submit. -/
inductive Block where
  /-- The validation faults. -/
  | faulted
  /-- A value is wrong. -/
  | invalid
  /-- The values are valid, and the handler makes these submits. -/
  | valid (inner : List Block)

namespace Block

mutual

/-- The statuses of a submit, the first one first. -/
def statuses : Block → List Status
  | .faulted => [.validating]
  | .invalid => [.validating, .invalid, .idle]
  | .valid inner => [.validating, .valid] ++ allStatuses inner ++ [.idle]

/-- The statuses of submits in turn. -/
def allStatuses : List Block → List Status
  | [] => []
  | b :: bs => b.statuses ++ allStatuses bs

end

theorem allStatuses_eq (bs : List Block) : allStatuses bs = bs.flatMap statuses := by
  induction bs with
  | nil => rfl
  | cons b bs ih => rw [allStatuses, ih, List.flatMap_cons]

end Block

/-- The forms that a script submits, in turn. -/
def Script.submits (submit : Engine → Engine × Except Fault Result) :
    Script → Engine → List Engine
  | .done, _ | .fail _, _ => []
  | .look next, e => (next e.state).submits submit e
  | .set name v next, e => (next (e.set name v).2).submits submit (e.set name v).1
  | .validate next, e => (next e.validate.2).submits submit e.validate.1
  | .submit next, e => e :: (next (submit e).2).submits submit (submit e).1
  | .reset next, e => next.submits submit e.reset

namespace Engine

/-- The forms that a run submits, in turn. -/
def submitted (depth : Nat) (handler? : Option Handler) : Engine → List Operation → List Engine
  | _, [] => []
  | e, .submit :: ops => e :: submitted depth handler? (e.perform depth handler? .submit).1 ops
  | e, op :: ops => submitted depth handler? (e.perform depth handler? op).1 ops

/-- A form whose values are found valid, at the call of the handler. -/
def called (e : Engine) (r : Result) : Engine :=
  ((e.judged r).moveTo .valid).calling (r.data.getD [])

/-- What the handler does with a form whose values are found valid. -/
def response (e : Engine) (handler? : Option Handler) (r : Result) : Script :=
  match handler? with
  | some handler => handler (e.called r).log (r.data.getD [])
  | none => .done

/-- The handler of a submit at work, its own submits nested to a depth. -/
def handled (e : Engine) (handler? : Option Handler) (depth : Nat) (r : Result) :
    Engine × Except Fault Unit :=
  (e.response handler? r).run (submitWithin handler? depth) (e.called r)

/-- The forms that the handler of a submit submits, in turn. -/
def nested (e : Engine) (handler? : Option Handler) (depth : Nat) (r : Result) : List Engine :=
  (e.response handler? r).submits (submitWithin handler? depth) (e.called r)

/-- The block of a submit within which submits nest to a depth.  Those that are
    nested deeper do not begin. -/
def block (handler? : Option Handler) (depth : Nat) (e : Engine) : Block :=
  match e.schema.validate e.state.values with
  | .error _ => .faulted
  | .ok r =>
    if r.isValid then
      .valid <| match depth with
        | 0 => []
        | depth + 1 => (e.nested handler? (depth + 1) r).map (block handler? depth)
    else .invalid

end Engine

/-- Whether the submit of a form may end so, if this is its block. -/
def Block.Agrees (handler? : Option Handler) (depth : Nat) (e : Engine)
    (outcome : Except Fault Result) : Block → Prop
  | .faulted => ∃ f, e.schema.validate e.state.values = .error f ∧ outcome = .error f
  | .invalid => ∃ r, e.schema.validate e.state.values = .ok r ∧ r.isValid = false ∧
      outcome = .ok r
  | .valid _ => ∃ r, e.schema.validate e.state.values = .ok r ∧ r.isValid = true ∧
      (((e.handled handler? depth r).2 = .ok () ∧ outcome = .ok r) ∨
        ∃ f, (e.handled handler? depth r).2 = .error f ∧ outcome = .error f)

namespace Engine

/-- The blocks of the submits that the handler of a submit makes. -/
def inner (handler? : Option Handler) (e : Engine) (r : Result) : Nat → List Block
  | 0 => []
  | depth + 1 => (e.nested handler? (depth + 1) r).map (block handler? depth)

section
variable {e : Engine} {handler? : Option Handler} {r : Result} {f : Fault}

/-! ## One submit -/

theorem block_faulted (h : e.schema.validate e.state.values = .error f) (depth : Nat) :
    block handler? depth e = .faulted := by
  unfold block
  rw [h]

theorem block_invalid (h : e.schema.validate e.state.values = .ok r) (hr : r.isValid = false)
    (depth : Nat) : block handler? depth e = .invalid := by
  unfold block
  simp only [h, hr, Bool.false_eq_true, if_false]

theorem block_valid (h : e.schema.validate e.state.values = .ok r) (hr : r.isValid = true)
    (depth : Nat) : block handler? depth e = .valid (inner handler? e r depth) := by
  unfold block
  simp only [h, hr, if_true]
  cases depth <;> rfl

theorem history_judged (e : Engine) (r : Result) :
    (e.judged r).history = e.history ++ [.validating] := by
  rw [history_eq, judged_events, List.filterMap_append, history_eq]
  rfl

theorem history_called (e : Engine) (r : Result) :
    (e.called r).history = e.history ++ [.validating, .valid] := by
  rw [called, calling, history_note, history_enter, history_moveTo, history_judged]
  simp [Event.status?]

/-- A submit with a valid verdict leaves what its handler leaves and goes back to
    idle; its result is the verdict unless the handler fails. -/
theorem submitWithin_valid (h : e.schema.validate e.state.values = .ok r)
    (hr : r.isValid = true) (depth : Nat) :
    (e.submitWithin handler? (depth + 1)).1.history =
        (e.handled handler? depth r).1.history ++ [.idle] ∧
      (e.submitWithin handler? (depth + 1)).2 =
        (e.handled handler? depth r).2.map fun _ => r := by
  rw [submitWithin_ok depth h]
  cases handler? with
  | none =>
    rw [conclude_unhandled hr]
    refine ⟨?_, rfl⟩
    rw [handled, response, Script.run, history_called, history_leave, history_moveTo,
      history_moveTo, history_judged]
    simp
  | some handler =>
    rw [conclude_handled hr]
    refine ⟨?_, rfl⟩
    rw [history_leave, history_moveTo, history_leave]
    rfl

/-- The result of a submit is one that its block admits. -/
theorem block_agrees (handler? : Option Handler) (depth : Nat) (e : Engine) :
    (block handler? depth e).Agrees handler? depth e (e.submitWithin handler? (depth + 1)).2 := by
  cases hv : e.schema.validate e.state.values with
  | error f =>
    rw [block_faulted hv, submitWithin_fault depth hv]
    exact ⟨f, hv, rfl⟩
  | ok r =>
    cases hr : r.isValid with
    | false =>
      rw [block_invalid hv hr, submitWithin_ok depth hv, conclude_invalid hr]
      exact ⟨r, hv, hr, rfl⟩
    | true =>
      rw [block_valid hv hr, (submitWithin_valid hv hr depth).2]
      refine ⟨r, hv, hr, ?_⟩
      cases (e.handled handler? depth r).2 with
      | ok _ => exact .inl ⟨rfl, rfl⟩
      | error f => exact .inr ⟨f, rfl, rfl⟩

/-! ## Submits in turn -/

/-- A script adds to a view of the form what its submits add to it, if nothing
    else that a handler can do changes the view. -/
theorem view_run {α : Type} {view : Engine → List α}
    {submit : Engine → Engine × Except Fault Result} {left : Engine → List α}
    (hset : ∀ e name v, view (e.set name v).1 = view e)
    (hvalidate : ∀ e : Engine, view e.validate.1 = view e)
    (hreset : ∀ e : Engine, view e.reset = view e)
    (hs : ∀ e, view (submit e).1 = view e ++ left e) (s : Script) :
    ∀ e, view (s.run submit e).1 = view e ++ (s.submits submit e).flatMap left := by
  induction s with
  | done | fail => exact fun e => (List.append_nil _).symm
  | look next ih => exact fun e => ih e.state e
  | set name v next ih =>
    intro e
    rw [Script.run, Script.submits, ih, hset]
  | validate next ih =>
    intro e
    rw [Script.run, Script.submits, ih, hvalidate]
  | submit next ih =>
    intro e
    rw [Script.run, Script.submits, ih, hs, List.flatMap_cons, List.append_assoc]
  | reset next ih =>
    intro e
    rw [Script.run, Script.submits, ih, hreset]

/-- A script leaves what its submits leave, and nothing else. -/
theorem history_run {submit : Engine → Engine × Except Fault Result} {left : Engine → List Status}
    (hs : ∀ e, (submit e).1.history = e.history ++ left e) (s : Script) :
    ∀ e, (s.run submit e).1.history = e.history ++ (s.submits submit e).flatMap left :=
  view_run
    (fun e name v => @history_perform e none (.set name v) nofun 0)
    (fun e => @history_perform e none .validate nofun 0) history_reset hs s

/-- A submit leaves the statuses of its block if its handler leaves those of the
    blocks within. -/
theorem history_submitWithin_of_handled {depth : Nat}
    (h : ∀ e r, (e.handled handler? depth r).1.history =
      (e.called r).history ++ Block.allStatuses (inner handler? e r depth)) (e : Engine) :
    (e.submitWithin handler? (depth + 1)).1.history =
      e.history ++ (block handler? depth e).statuses := by
  cases hv : e.schema.validate e.state.values with
  | error f =>
    rw [submitWithin_fault depth hv, block_faulted hv, history_leave, history_leave, history_begun]
    rfl
  | ok r =>
    cases hr : r.isValid with
    | false =>
      rw [submitWithin_ok depth hv, conclude_invalid hr, block_invalid hv hr, history_leave,
        history_moveTo, history_moveTo, history_judged, Block.statuses]
      simp
    | true =>
      rw [(submitWithin_valid hv hr depth).1, h, history_called, block_valid hv hr, Block.statuses]
      simp

/-- A handler leaves the statuses of the blocks of its submits: by induction on
    the depth to which these nest. -/
theorem history_handled (depth : Nat) : ∀ e r, (e.handled handler? depth r).1.history =
    (e.called r).history ++ Block.allStatuses (inner handler? e r depth) := by
  induction depth with
  | zero =>
    -- a submit that does not begin leaves nothing
    intro e r
    have hs : ∀ x : Engine, (x.submitWithin handler? 0).1.history = x.history ++ [] :=
      fun x => (List.append_nil _).symm
    rw [handled, history_run hs]
    simp [inner, Block.allStatuses]
  | succ depth ih =>
    intro e r
    rw [handled, history_run (history_submitWithin_of_handled ih), inner, Block.allStatuses_eq,
      List.flatMap_map]
    rfl

theorem history_submitWithin (depth : Nat) (e : Engine) :
    (e.submitWithin handler? (depth + 1)).1.history =
      e.history ++ (block handler? depth e).statuses :=
  history_submitWithin_of_handled (history_handled depth) e

/-! ## Runs -/

theorem submitted_submit (depth : Nat) (e : Engine) (ops : List Operation) :
    submitted depth handler? e (.submit :: ops) =
      e :: submitted depth handler? (e.perform depth handler? .submit).1 ops := rfl

theorem submitted_of_ne {op : Operation} (h : op ≠ .submit) (depth : Nat) (e : Engine)
    (ops : List Operation) : submitted depth handler? e (op :: ops) =
      submitted depth handler? (e.perform depth handler? op).1 ops := by
  cases op with
  | submit => exact absurd rfl h
  | set | validate | reset => rfl

/-- A run leaves the statuses of the blocks of its submits. -/
theorem history_performAll (depth : Nat) (ops : List Operation) : ∀ e : Engine,
    (e.performAll (depth + 1) handler? ops).history = e.history ++
      ((submitted (depth + 1) handler? e ops).map (block handler? depth)).flatMap
        Block.statuses := by
  induction ops with
  | nil => exact fun e => (List.append_nil _).symm
  | cons op ops ih =>
    intro e
    rw [performAll, List.foldl_cons, ← performAll, ih]
    by_cases ho : op = .submit
    · subst ho
      rw [submitted_submit, List.map_cons, List.flatMap_cons, ← List.append_assoc,
        ← history_submitWithin]
      rfl
    · rw [submitted_of_ne ho, history_perform ho]

/-- A run submits a form for each of its submits. -/
theorem length_submitted (depth : Nat) (ops : List Operation) : ∀ e : Engine,
    (submitted depth handler? e ops).length = ops.countP (· matches .submit) := by
  induction ops with
  | nil => exact fun e => rfl
  | cons op ops ih =>
    intro e
    cases op with
    | submit => rw [submitted_submit, List.length_cons, ih, List.countP_cons]; rfl
    | set | validate | reset => rw [submitted_of_ne (by simp), ih, List.countP_cons]; rfl

/-- **The grammar of a history.**  After every run the history is idle and then,
    for each submit of the run in turn, the statuses of its block: validating
    alone if the validation faulted; validating, invalid and idle if a value was
    wrong; and else validating, valid, the blocks of the submits that the
    handler made, and idle, even if the handler failed.  Nothing else leaves
    anything, and the result of each submit, nested or not, is as its block
    says. -/
theorem history_is_blocks {form : Form} {strict traced : Bool} {e₀ : Engine}
    (hm : mount form strict traced = .ok e₀) (depth : Nat) (handler? : Option Handler)
    (ops : List Operation) :
    let blocks := (submitted (depth + 1) handler? e₀ ops).map (block handler? depth)
    (e₀.performAll (depth + 1) handler? ops).history = .idle :: blocks.flatMap Block.statuses ∧
    blocks.length = ops.countP (· matches .submit) ∧
    ∀ (depth : Nat) (e : Engine), (block handler? depth e).Agrees handler? depth e
      (e.submitWithin handler? (depth + 1)).2 := by
  intro blocks
  refine ⟨?_, ?_, block_agrees handler?⟩
  · have h₀ : e₀.history = [.idle] := by rw [history, (mount_eq_ok hm).2.2.2]; rfl
    rw [history_performAll, h₀]
    rfl
  · rw [List.length_map, length_submitted]

end

/-- A handler that submits a wrong value and then a right one before it fails,
    and a last submit whose validation faults. -/
theorem history_is_blocks_nested :
    let field : Field :=
      { name := "q", label := "Query", type := .declared .text,
        rules := [⟨.required, .null, "What for?"⟩] }
    let form : Form := { fields := [field] }
    let again : Handler := fun log _ =>
      if (log.filterMap Event.call?).length = 1 then
        .set "q" (.text "") fun _ => .submit fun _ =>
        .set "q" (.text "b") fun _ => .submit fun _ => .fail (.handlerFailed "no")
      else .done
    let ops : List Operation := [.set "q" (.text "a"), .submit,
      .set "q" (.int (Nat.pow 10 4300)), .validate, .submit]
    ∃ e₀, mount form false false = .ok e₀ ∧
      ((submitted maxDepth (some again) e₀ ops).map (block (some again) 199)).length = 2 ∧
      (e₀.performAll maxDepth (some again) ops).history =
        [.idle, .validating, .valid, .validating, .invalid, .idle, .validating, .valid, .idle,
          .idle, .validating] := by
  intro field form again ops
  have hm : mount form false false = .ok _ := rfl
  refine ⟨_, hm, ?_⟩
  obtain ⟨hh, hl, -⟩ := history_is_blocks hm 199 (some again) ops
  exact ⟨hl, hh.trans (by decide +kernel)⟩

end Engine
end Formulary
