/-
  Clients that share a service do not meet.

  * `Turn` is a call and the client that makes it; a list of turns is any
    interleaving of the calls of its clients, and `callsOf` are those of one;
  * `Addresses` are the calls on the session of an id alone; `call_effect` says
    that such a call does to that session, and answers, what depends on what is
    found there;
  * `clients_isolated`: each client gets the answers that it would get alone, and
    has in the end the session and the submission that it would have alone.
-/
import Formulary.Proofs.Service.Effect

namespace Formulary.Service

/-- Whether a call is on no session but that of an id.  To mount a form it has
    to name the id. -/
def Addresses (c : Call) (id : String) : Prop :=
  match Tool.ofName? c.1 with
  | some .mountForm => argument c.2 "session_id" = .ok (.text id)
  | some .setFieldValue | some .submitForm | some .unmountForm =>
    ∀ v, argument c.2 "session_id" = .ok v → v = .text id
  | some .validateForm | some .describeForm | some .lintForm | none => True

section
variable {settings : Settings} {s : Store} {c : Call} {id : String}

/-! ## One call -/

variable (settings) in
theorem run_addressed {t : Tool} (ht : Tool.ofName? c.1 = some t) (hne : id ≠ "")
    (hc : Addresses c id) {found : Option Session}
    (hf : ∀ x, found = some x → x.key = .text id ∧ x.id = .text id) :
    ∃ (eff : Effect) (a : Except Fault Value), ∀ s : Store, s.find? (.text id) = found →
      run settings s t c.2 = (eff.on id s, a) := by
  -- a tool on sessions either has the id or does nothing
  have named : argument c.2 "session_id" = .ok (.text id) →
      ∃ (eff : Effect) (a : Except Fault Value), ∀ s : Store, s.find? (.text id) = found →
        run settings s t c.2 = (eff.on id s, a) := by
    intro hid
    obtain ⟨eff, a, -, h⟩ := run_effect settings (fun _ => hne) hid hf
    exact ⟨eff, a, h⟩
  have either : t = .setFieldValue ∨ t = .submitForm ∨ t = .unmountForm →
      (∀ v, argument c.2 "session_id" = .ok v → v = .text id) →
      ∃ (eff : Effect) (a : Except Fault Value), ∀ s : Store, s.find? (.text id) = found →
        run settings s t c.2 = (eff.on id s, a) := by
    intro ht hv
    cases ha : argument c.2 "session_id" with
    | ok v => exact named (hv v ha ▸ ha)
    | error f => exact ⟨.nothing, .error f, fun s _ => run_unnamed ht ha s⟩
  unfold Addresses at hc
  rw [ht] at hc
  cases t with
  | validateForm | describeForm | lintForm => exact ⟨.nothing, _, fun s _ => rfl⟩
  | mountForm => exact named hc
  | setFieldValue | submitForm | unmountForm => exact either (by simp) hc

variable (settings) in
/-- A call does to the session of the id that it addresses, and answers, what
    depends on what is found there. -/
theorem call_effect (hne : id ≠ "") (hc : Addresses c id) {found : Option Session}
    (hf : ∀ x, found = some x → x.key = .text id ∧ x.id = .text id) :
    ∃ (eff : Effect) (a : Except Fault Value), ∀ s : Store, s.find? (.text id) = found →
      call settings s c.1 c.2 = (eff.on id s, a) := by
  cases ht : Tool.ofName? c.1 with
  | none => exact ⟨.nothing, _, fun s _ => by rw [call, ht]; rfl⟩
  | some t =>
    obtain ⟨eff, a, h⟩ := run_addressed settings ht hne hc hf
    cases a with
    | ok v => exact ⟨eff, .ok v, fun s hs => by rw [call_known ht, h s hs]⟩
    | error f => exact ⟨eff, answer f, fun s hs => by rw [call_known ht, h s hs]⟩

variable (settings) in
/-- A call does not touch what is under another id. -/
theorem call_frame (hs : s.Textual) (hne : id ≠ "") (hc : Addresses c id) {id' : String}
    (h : id' ≠ id) : (call settings s c.1 c.2).1.cell id' = s.cell id' := by
  obtain ⟨eff, a, he⟩ := call_effect settings hne hc (fun x => hs.found (x := x))
  rw [he s rfl, Effect.cell_on, if_neg h]

theorem textual_call (hs : s.Textual) (hne : id ≠ "") (hc : Addresses c id) :
    (call settings s c.1 c.2).1.Textual := by
  obtain ⟨eff, a, he⟩ := call_effect settings hne hc (fun x => hs.found (x := x))
  rw [he s rfl]
  exact Effect.textual_on hs eff id

variable (settings) in
/-- Stores that agree under an id answer a call on it alike, and go on to
    agree. -/
theorem call_agrees {s' : Store} (hs : s.Textual) (hne : id ≠ "") (hc : Addresses c id)
    (h : s.cell id = s'.cell id) :
    (call settings s c.1 c.2).2 = (call settings s' c.1 c.2).2 ∧
      (call settings s c.1 c.2).1.cell id = (call settings s' c.1 c.2).1.cell id := by
  obtain ⟨eff, a, he⟩ := call_effect settings hne hc (fun x => hs.found (x := x))
  have hf : s'.find? (.text id) = s.find? (.text id) := (congrArg Prod.fst h).symm
  rw [he s rfl, he s' hf, Effect.cell_on, Effect.cell_on, h]
  exact ⟨rfl, rfl⟩

end

/-! ## Clients in turn -/

/-- A call, and the client that makes it, who goes by the id of a session. -/
structure Turn where
  client : String
  call : Call

/-- The calls of a client, in turn. -/
def callsOf (client : String) (turns : List Turn) : List Call :=
  (turns.filter (·.client = client)).map (·.call)

/-- The answers to calls in turn. -/
def answers (settings : Settings) : Store → List Call → List (Except Fault Value)
  | _, [] => []
  | s, c :: calls =>
    (call settings s c.1 c.2).2 :: answers settings (call settings s c.1 c.2).1 calls

/-- The answers that a client gets, whoever else takes turns. -/
def answersTo (settings : Settings) (client : String) :
    Store → List Turn → List (Except Fault Value)
  | _, [] => []
  | s, turn :: turns =>
    let (s, a) := call settings s turn.call.1 turn.call.2
    if turn.client = client then a :: answersTo settings client s turns
    else answersTo settings client s turns

/-- A client cannot tell stores that agree under its id, one of them with other
    clients: by induction on the turns. -/
theorem turns_agree (settings : Settings) (client : String) {turns : List Turn}
    (h : ∀ turn ∈ turns, turn.client ≠ "" ∧ Addresses turn.call turn.client) :
    ∀ s s' : Store, s.Textual → s.cell client = s'.cell client →
      answersTo settings client s turns = answers settings s' (callsOf client turns) ∧
        (after settings s (turns.map (·.call))).cell client =
          (after settings s' (callsOf client turns)).cell client := by
  induction turns with
  | nil => exact fun s s' _ hc => ⟨rfl, hc⟩
  | cons turn turns ih =>
    intro s s' hs hc
    obtain ⟨hne, ha⟩ := h turn (by simp)
    have ih := ih (fun t ht => h t (by simp [ht]))
    have hs' : (call settings s turn.call.1 turn.call.2).1.Textual := textual_call hs hne ha
    by_cases hcl : turn.client = client
    · subst hcl
      obtain ⟨hans, hcell⟩ := call_agrees settings hs hne ha hc
      obtain ⟨h₁, h₂⟩ := ih _ _ hs' hcell
      simp only [answersTo, callsOf, List.filter_cons, decide_true, if_true, List.map_cons,
        answers] at h₁ h₂ ⊢
      exact ⟨by rw [hans, h₁], h₂⟩
    · have hcell := (call_frame settings hs hne ha (Ne.symm hcl)).trans hc
      obtain ⟨h₁, h₂⟩ := ih _ _ hs' hcell
      simp only [answersTo, callsOf, List.filter_cons, hcl, decide_false, if_false,
        Bool.false_eq_true] at h₁ h₂ ⊢
      exact ⟨h₁, h₂⟩

/-- **Clients do not meet.**  Whatever calls clients make and however these
    interleave, if each makes calls on the session of its own id only, then each
    gets, call by call, the answers that it gets if it is alone, and in the end
    the session under its id, its form with values, messages, status, history
    and calls, and what was submitted in it are what they are then. -/
theorem clients_isolated (settings : Settings) {turns : List Turn}
    (h : ∀ turn ∈ turns, turn.client ≠ "" ∧ Addresses turn.call turn.client) (client : String) :
    answersTo settings client {} turns = answers settings {} (callsOf client turns) ∧
      (callAll settings (turns.map (·.call))).find? (.text client) =
        (callAll settings (callsOf client turns)).find? (.text client) ∧
      (callAll settings (turns.map (·.call))).submission? (.text client) =
        (callAll settings (callsOf client turns)).submission? (.text client) := by
  obtain ⟨hans, hcell⟩ := turns_agree settings client h {} {} Store.textual_empty rfl
  exact ⟨hans, congrArg Prod.fst hcell, congrArg Prod.snd hcell⟩

/-- A client whose form another one mounts too, and drops between its calls. -/
theorem clients_isolated_contact :
    let mount (id : String) : Call :=
      ("mount_form", .record [("form", .text "contact"), ("session_id", .text id)])
    let set : Call := ("set_field_value", .record [("session_id", .text "a"),
      ("name", .text "email"), ("value", .text "x@example.com")])
    let submit : Call := ("submit_form", .record [("session_id", .text "a")])
    let drop : Call := ("unmount_form", .record [("session_id", .text "b")])
    let turns : List Turn :=
      [⟨"a", mount "a"⟩, ⟨"b", mount "b"⟩, ⟨"a", set⟩, ⟨"b", drop⟩, ⟨"a", submit⟩]
    (∀ turn ∈ turns, turn.client ≠ "" ∧ Addresses turn.call turn.client) ∧
      answersTo {} "a" {} turns = answers {} {} [mount "a", set, submit] ∧
      (callAll {} (turns.map (·.call))).find? (.text "b") = none := by
  intro mount set submit drop turns
  have h : ∀ turn ∈ turns, turn.client ≠ "" ∧ Addresses turn.call turn.client := by
    simp [turns, mount, set, submit, drop, Addresses, Tool.ofName?, Tool.all, Tool.name, argument]
    exact ⟨rfl, rfl⟩
  refine ⟨h, (clients_isolated {} h "a").1, ?_⟩
  rw [(clients_isolated {} h "b").2.1]
  decide +kernel

end Formulary.Service
