import LspClient.Proofs.Client.Run
import LspClient.Proofs.Text.Blank

/-!
# What actions ask of a transport

Whatever the transport is, an action asks one operation of it or none, and which one is settled
before the transport answers (`asks?`): none if the method is blank or the params have no JSON form.
Two facts say that this is all.

* An action leaves the client on which it was started, with what that operation makes of the
  transport (`act_client`). Nothing in this depends on what the transport brings back.
* A transport can be recorded: it then keeps a list of all that is asked of it. Recording makes no
  difference to what actions come to (`act_forget`), so that the record tells of the transport
  itself, and an action adds to the record what it asks and nothing else (`act_asked`).

The turns of a run are told on any transport; on a stream they are the events of `Client.run`
(`map_event_turns`).
-/

namespace LspClient

open Transport

/-! ### Recorded transports -/

namespace Transport

variable {σ α : Type} [LspClient.Transport σ]

/-- What an operation makes of a transport. -/
def deliver (t : σ) : Stream.Operation → σ
  | .request message => (LspClient.Transport.request t message).transport
  | .notify message => (LspClient.Transport.notify t message).transport

/-- A transport with a record of the operations that were asked of it, earliest first. -/
structure Recorded (σ : Type) where
  inner : σ
  asked : List Stream.Operation

/-- What came of an operation on the inner transport, with the operation on record. -/
def Recorded.note (t : Recorded σ) (op : Stream.Operation) (d : Delivery σ α) :
    Delivery (Recorded σ) α :=
  ⟨d.outcome, ⟨d.transport, t.asked ++ [op]⟩, d.notes⟩

instance : LspClient.Transport (Recorded σ) where
  request t message := t.note (.request message) (LspClient.Transport.request t.inner message)
  notify t message := t.note (.notify message) (LspClient.Transport.notify t.inner message)

/-- A recorded transport keeps the operation and does what it does without the record. -/
theorem deliver_recorded (t : Recorded σ) (op : Stream.Operation) :
    deliver t op = ⟨deliver t.inner op, t.asked ++ [op]⟩ := by
  cases op <;> rfl

end Transport

namespace Client

variable {σ α : Type}

/-! ### What an action asks -/

/-- The operation that an action comes down to with some id, if it needs one, and some params. -/
def Action.operation (a : Action) (id : Id) (params : Option Json) : Stream.Operation :=
  if a.isCall then .request (RequestEnvelope.text ⟨id, a.method, params⟩)
  else .notify (NotificationEnvelope.text ⟨a.method, params⟩)

/-- The operation that an action asks of the transport. It asks none if the method is blank or the
params have no JSON form. -/
def asks? (c : Client σ) (a : Action) : Option Stream.Operation :=
  if Text.trim a.method.toList = [] then none
  else
    match a.params.toJson with
    | .ok v => some (a.operation c.drawId.1 (c.paramsStyle.encode v))
    | .error _ => none

/-- The client when an action is started: a call has drawn its id. -/
def started (c : Client σ) (a : Action) : Client σ :=
  if a.isCall then c.drawId.2 else c

section

variable {style : ParamsStyle} {method : String} {params : Payload}

theorem prepare_of_blank (h : Text.trim method.toList = []) :
    prepare style method params = .error .invalidMethod :=
  if_pos (Text.isAllBlank_iff.2 h)

/-- A method that is not blank is in order, and then it depends on the params. -/
theorem prepare_of_not_blank (h : Text.trim method.toList ≠ []) :
    prepare style method params =
      match params.toJson with
      | .ok v => .ok (style.encode v)
      | .error fault => .error (.params method fault) :=
  if_neg fun hblank ↦ h (Text.isAllBlank_iff.1 hblank)

end

/-- An action asks nothing exactly if it fails validation. -/
theorem asks?_eq (c : Client σ) (a : Action) :
    c.asks? a =
      match prepare c.paramsStyle a.method a.params with
      | .ok params => some (a.operation c.drawId.1 params)
      | .error _ => none := by
  rw [asks?]
  split
  case isTrue hblank => rw [prepare_of_blank hblank]
  case isFalse hblank =>
    rw [prepare_of_not_blank hblank]
    cases a.params.toJson <;> rfl

/-- Starting an action leaves the transport alone. -/
theorem started_transport (c : Client σ) (a : Action) : (c.started a).transport = c.transport := by
  rw [started]
  split
  case isTrue => exact drawId_transport c
  case isFalse => rfl

variable [Transport σ]

/-- An action leaves the client on which it was started, with what the operation that it asks makes
of the transport. -/
theorem act_client (c : Client σ) (a : Action) :
    (c.act a).client =
      { c.started a with transport := (c.asks? a).elim c.transport (deliver c.transport) } := by
  have hstarted : { c.started a with transport := c.transport } = c.started a := by
    rw [← started_transport c a]
  rw [asks?_eq]
  cases hcall : a.isCall with
  | true =>
    have hdrawn : c.started a = c.drawId.2 := if_pos hcall
    obtain ⟨accept, haccept, -⟩ := act_of_isCall c hcall
    rw [haccept]
    change (c.call a.method a.params).client = _
    cases hprepare : prepare c.paramsStyle a.method a.params with
    | error e =>
      rw [call_of_error hprepare]
      exact hdrawn.symm.trans hstarted.symm
    | ok params =>
      rw [call_of_ok hprepare, exchange_changes, drawId_transport, hdrawn]
      simp only [Action.operation, hcall, if_true, Option.elim_some, deliver]
  | false =>
    have hsame : c.started a = c := if_neg (by simp [hcall])
    obtain ⟨method, params, rfl⟩ := Action.exists_notify hcall
    change (c.notify method params).client = _
    rw [notify, hsame]
    simp only [Action.method, Action.params]
    cases prepare c.paramsStyle method params <;> rfl

/-- An action that asks nothing leaves the transport alone. -/
theorem act_transport_of_none {c : Client σ} {a : Action} (h : c.asks? a = none) :
    (c.act a).client.transport = c.transport := by
  rw [act_client, h]
  rfl

/-- An action that fails validation fails with what is wrong with it. -/
theorem act_of_error {c : Client σ} {a : Action} {e : ClientError}
    (h : prepare c.paramsStyle a.method a.params = .error e) :
    (c.act a).outcome = .failed e := by
  cases hcall : a.isCall with
  | true =>
    obtain ⟨accept, haccept, -⟩ := act_of_isCall c hcall
    rw [haccept, call_of_error h]
    rfl
  | false =>
    obtain ⟨method, params, rfl⟩ := Action.exists_notify hcall
    have hprepare : prepare c.paramsStyle method params = .error e := h
    change (c.notify method params).outcome = _
    simp only [notify, hprepare]
    rfl

/-! ### Failures to decode -/

/-- The judgement of a response does not decode its result. -/
theorem judge_ne_decode (id : Id) (body method : String) (fault : Json.Mismatch) :
    judge id body ≠ .error (.decode method fault) := by
  intro h
  rw [judge] at h
  split at h
  · rw [correlate] at h
    split at h <;> split at h <;> cases h
  · cases h

theorem exists_of_mapError_eq_failed {ε ε' : Type} {f : ε → ε'} {outcome : Outcome ε α} {e' : ε'}
    (h : outcome.mapError f = .failed e') : ∃ e, f e = e' := by
  cases outcome with
  | done a => cases h
  | failed e => injection h with h; exact ⟨e, h⟩
  | never => cases h

/-- A plain call does not fail to decode. -/
theorem call_ne_decode (c : Client σ) (method : String) (params : Payload) (method' : String)
    (fault : Json.Mismatch) : (c.call method params).outcome ≠ .failed (.decode method' fault) := by
  intro h
  cases hprepare : prepare c.paramsStyle method params with
  | error e =>
    rw [call_of_error hprepare] at h
    cases h
    rcases prepare_eq_error hprepare with he | ⟨fault', he⟩ <;> cases he
  | ok v =>
    rw [call_of_ok hprepare, exchange_outcome] at h
    split at h
    · exact judge_ne_decode _ _ _ _ (ofExcept_eq_failed h)
    · cases h
    · cases h

/-- A notification does not fail to decode. -/
theorem notify_ne_decode (c : Client σ) (method : String) (params : Payload) (method' : String)
    (fault : Json.Mismatch) :
    (c.notify method params).outcome ≠ .failed (.decode method' fault) := by
  intro h
  rw [notify] at h
  split at h
  · rename_i e hprepare
    cases h
    rcases prepare_eq_error hprepare with he | ⟨fault', he⟩ <;> cases he
  · obtain ⟨e, he⟩ := exists_of_mapError_eq_failed h
    cases he

/-- An action that fails to decode a result is a call that succeeds, and it leaves what that
leaves. -/
theorem exists_of_act_eq_decode {c : Client σ} {a : Action} {method : String}
    {fault : Json.Mismatch} (h : (c.act a).outcome = .failed (.decode method fault)) :
    (∃ v, (c.call a.method a.params).outcome = .done v) ∧
      (c.act a).client = (c.call a.method a.params).client ∧
      (c.act a).notes = (c.call a.method a.params).notes := by
  cases hcall : a.isCall with
  | true =>
    obtain ⟨accept, haccept, -⟩ := act_of_isCall c hcall
    rw [haccept] at h ⊢
    refine ⟨?_, rfl, rfl⟩
    cases houtcome : (c.call a.method a.params).outcome with
    | done v => exact ⟨v, rfl⟩
    | failed e =>
      simp only [Step.andThen, houtcome] at h
      cases h
      exact absurd houtcome (call_ne_decode _ _ _ _ _)
    | never =>
      simp only [Step.andThen, houtcome] at h
      cases h
  | false =>
    obtain ⟨method, params, rfl⟩ := Action.exists_notify hcall
    exact absurd h (notify_ne_decode c _ _ _ _)

/-! ### Recording makes no difference -/

/-- The client on another transport. -/
def withTransport {τ : Type} (c : Client σ) (t : τ) : Client τ where
  transport := t
  idStyle := c.idStyle
  paramsStyle := c.paramsStyle
  nextId := c.nextId
  uuids := c.uuids
  drawn := c.drawn

/-- The client with its transport recorded from now on. -/
def recorded (c : Client σ) : Client (Recorded σ) :=
  c.withTransport ⟨c.transport, []⟩

/-- The client without the record of its transport. -/
def forget (c : Client (Recorded σ)) : Client σ :=
  c.withTransport c.transport.inner

end Client

/-- The step without the record of the transport. -/
def Step.forget {σ α : Type} (s : Step (Recorded σ) α) : Step σ α :=
  ⟨s.outcome, s.client.forget, s.notes⟩

namespace Client

variable {σ α : Type}

theorem drawId_forget (c : Client (Recorded σ)) :
    c.forget.drawId = (c.drawId.1, c.drawId.2.forget) := by
  have hstyle : c.forget.idStyle = c.idStyle := rfl
  rw [drawId, drawId, hstyle]
  cases c.idStyle <;> rfl

variable [Transport σ]

theorem exchange_forget (c : Client (Recorded σ)) (id : Id) (message : String) :
    (c.exchange id message).forget = c.forget.exchange id message := by
  have hrequest : Transport.request c.transport message =
      c.transport.note (.request message) (Transport.request c.forget.transport message) := rfl
  rw [exchange, exchange, hrequest]
  simp only [Recorded.note]
  cases (Transport.request c.forget.transport message).outcome <;> rfl

/-- A call does not see the record. -/
theorem call_forget (c : Client (Recorded σ)) (method : String) (params : Payload) :
    (c.call method params).forget = c.forget.call method params := by
  have hstyle : c.forget.paramsStyle = c.paramsStyle := rfl
  cases hprepare : prepare c.paramsStyle method params with
  | error e =>
    rw [call_of_error hprepare, call_of_error (hstyle ▸ hprepare), drawId_forget]
    rfl
  | ok v =>
    rw [call_of_ok hprepare, call_of_ok (hstyle ▸ hprepare), drawId_forget]
    exact exchange_forget _ _ _

theorem callAs_forget (c : Client (Recorded σ)) (decode : Json.Decoder α) (method : String)
    (params : Payload) :
    (c.callAs decode method params).forget = c.forget.callAs decode method params := by
  rw [callAs, callAs, ← call_forget]
  rfl

/-- Whether the transport is recorded makes no difference to what comes of an action. -/
theorem act_forget (c : Client (Recorded σ)) (a : Action) :
    (c.act a).forget = c.forget.act a := by
  cases a with
  | call method params => exact call_forget c method params
  | callAs decode method params => exact callAs_forget c decode method params
  | handshake params =>
    exact callAs_forget c Lsp.InitializeResult.decode Lsp.initializeMethod params.payload
  | notify method params =>
    have hstyle : c.forget.paramsStyle = c.paramsStyle := rfl
    simp only [act, notify, hstyle]
    cases prepare c.paramsStyle method params <;> rfl

/-- An action adds what it asks to the record, and nothing else. -/
theorem act_asked (c : Client (Recorded σ)) (a : Action) :
    (c.act a).client.transport =
      ⟨(c.asks? a).elim c.transport.inner (deliver c.transport.inner),
        c.transport.asked ++ (c.asks? a).toList⟩ := by
  rw [act_client]
  cases c.asks? a with
  | none =>
    simp only [Option.elim_none, Option.toList_none, List.append_nil]
  | some op => exact deliver_recorded c.transport op

/-! ### Runs -/

/-- One action of a run on any transport, with the client before it. -/
structure Turn (σ : Type) : Type 1 where
  before : Client σ
  action : Action
  step : Step σ action.Value

/-- Performs actions, each on what the one before it leaves, up to one that never returns. -/
def turns (c : Client σ) : List Action → List (Turn σ)
  | [] => []
  | a :: actions =>
    let step := c.act a
    ⟨c, a, step⟩ ::
      match step.outcome with
      | .never => []
      | _ => turns step.client actions

/-- The client after turns. -/
def afterTurns (c : Client σ) (turns : List (Turn σ)) : Client σ :=
  turns.foldl (fun _ t ↦ t.step.client) c

namespace Turn

/-- The operation that a turn asks of the transport, if its action is accepted. -/
def asks? (t : Turn σ) : Option Stream.Operation :=
  t.before.asks? t.action

/-- The turn without the record of the transport. -/
def forget (t : Turn (Recorded σ)) : Turn σ :=
  ⟨t.before.forget, t.action, t.step.forget⟩

/-- A turn whose action is not in order fails with what is wrong with it and leaves the transport
alone. Any other asks one operation of the transport, once. -/
structure AsksOnce (t : Turn (Recorded σ)) : Prop where
  /-- A blank method is found first, whatever the params are. -/
  blank : Text.trim t.action.method.toList = [] →
    t.step.outcome = .failed .invalidMethod ∧ t.step.client.transport = t.before.transport
  /-- Then it is found that the params have no JSON form. -/
  refused : Text.trim t.action.method.toList ≠ [] →
    ∀ fault, t.action.params.toJson = .error fault →
      t.step.outcome = .failed (.params t.action.method fault) ∧
        t.step.client.transport = t.before.transport
  /-- An action in order asks for what it comes down to, whatever comes of it. -/
  accepted : Text.trim t.action.method.toList ≠ [] → ∀ v, t.action.params.toJson = .ok v →
    let op := t.action.operation t.before.drawId.1 (t.before.paramsStyle.encode v)
    t.step.client.transport =
      ⟨deliver t.before.transport.inner op, t.before.transport.asked ++ [op]⟩
  /-- A result that is not decoded is the result of a call that succeeds, and what that leaves is
  left. -/
  undecoded : ∀ method fault, t.step.outcome = .failed (.decode method fault) →
    let plain := t.before.call t.action.method t.action.params
    (∃ v, plain.outcome = .done v) ∧ t.step.client = plain.client ∧ t.step.notes = plain.notes

end Turn

/-- A run is an action, and then either nothing, if that never returns, or a run of the rest. -/
theorem turns_cons (c : Client σ) (a : Action) (actions : List Action) :
    (c.act a).outcome = .never ∧ c.turns (a :: actions) = [⟨c, a, c.act a⟩] ∨
      (c.act a).outcome ≠ .never ∧
        c.turns (a :: actions) = ⟨c, a, c.act a⟩ :: (c.act a).client.turns actions := by
  rw [turns]
  cases (c.act a).outcome with
  | never => exact .inl ⟨rfl, rfl⟩
  | done value => exact .inr ⟨nofun, rfl⟩
  | failed e => exact .inr ⟨nofun, rfl⟩

/-- On a stream the turns are the events of a run. -/
theorem map_event_turns (c : Client Stream) (actions : List Action) :
    (c.turns actions).map (fun t ↦ (⟨t.before, t.action, t.step⟩ : Event)) = c.run actions := by
  induction actions generalizing c with
  | nil => rfl
  | cons a actions ih =>
    rw [turns, run, List.map_cons, act_eq_perform]
    refine congrArg (List.cons _) ?_
    cases (c.perform a).outcome with
    | never => rfl
    | done value => exact ih _
    | failed e => exact ih _

/-- A turn asks for one operation, or for none if its action is not in order. -/
theorem asksOnce (c : Client (Recorded σ)) (a : Action) : Turn.AsksOnce ⟨c, a, c.act a⟩ where
  blank hblank := ⟨act_of_error (prepare_of_blank hblank), act_transport_of_none (if_pos hblank)⟩
  refused hblank fault hfault := by
    have hprepare := @prepare_of_not_blank c.paramsStyle a.method a.params hblank
    rw [hfault] at hprepare
    have hnone : c.asks? a = none := by rw [asks?_eq, hprepare]
    exact ⟨act_of_error hprepare, act_transport_of_none hnone⟩
  accepted hblank v hv := by
    have hsome : c.asks? a = some (a.operation c.drawId.1 (c.paramsStyle.encode v)) := by
      rw [asks?, if_neg hblank, hv]
    rw [act_asked, hsome, Option.elim_some, Option.toList_some]
  undecoded method fault h := exists_of_act_eq_decode h

/-- The turns of a recorded run are those of the run, with the record. -/
theorem map_forget_turns (c : Client (Recorded σ)) (actions : List Action) :
    (c.turns actions).map Turn.forget = c.forget.turns actions := by
  induction actions generalizing c with
  | nil => rfl
  | cons a actions ih =>
    have hstep := act_forget c a
    have houtcome : (c.forget.act a).outcome = (c.act a).outcome :=
      congrArg Step.outcome hstep.symm
    have hclient : (c.forget.act a).client = (c.act a).client.forget :=
      congrArg Step.client hstep.symm
    rcases turns_cons c a actions with ⟨hnever, hturns⟩ | ⟨hreturns, hturns⟩
    · rcases turns_cons c.forget a actions with ⟨-, hturns'⟩ | ⟨hreturns', -⟩
      · rw [hturns, hturns', List.map_singleton, ← hstep]
        rfl
      · exact absurd (houtcome.trans hnever) hreturns'
    · rcases turns_cons c.forget a actions with ⟨hnever', -⟩ | ⟨-, hturns'⟩
      · exact absurd (houtcome.symm.trans hnever') hreturns
      · rw [hturns, hturns', List.map_cons, ih, hclient, ← hstep]
        rfl

/-- After a run the transport is what the operations that its turns ask, one after another, make of
it, and these are on record. -/
theorem transport_afterTurns (c : Client (Recorded σ)) (actions : List Action) :
    let ops := (c.turns actions).filterMap Turn.asks?
    (c.afterTurns (c.turns actions)).transport =
      ⟨ops.foldl deliver c.transport.inner, c.transport.asked ++ ops⟩ := by
  induction actions generalizing c with
  | nil =>
    simp only [turns, List.filterMap_nil, List.foldl_nil, List.append_nil]
    rfl
  | cons a actions ih =>
    have hact := act_asked c a
    rcases turns_cons c a actions with ⟨-, hturns⟩ | ⟨-, hturns⟩
    · rw [hturns, List.filterMap_cons, List.filterMap_nil]
      refine Eq.trans hact ?_
      simp only [Turn.asks?]
      cases c.asks? a <;> rfl
    · have hrest := ih (c.act a).client
      rw [hturns, List.filterMap_cons]
      refine Eq.trans hrest ?_
      rw [hact]
      simp only [Turn.asks?]
      cases c.asks? a with
      | none => simp only [Option.elim_none, Option.toList_none, List.append_nil]
      | some op =>
        simp only [Option.elim_some, Option.toList_some, List.foldl_cons, List.append_assoc,
          List.singleton_append]

/-- **One operation or none.** Let the transport of a run be recorded from the start, which makes no
difference to any turn of the run.

* Each turn asks one operation of the transport, or fails validation and leaves the transport
  alone. What comes of an operation makes no difference to that.
* The record holds the operations that the turns with accepted actions ask, in order, and nothing
  else, and the transport is what these make of it one after another. -/
theorem turns_asked (c : Client σ) (actions : List Action) :
    let turns := c.recorded.turns actions
    let ops := turns.filterMap Turn.asks?
    turns.map Turn.forget = c.turns actions ∧ (∀ t ∈ turns, t.AsksOnce) ∧
      (c.recorded.afterTurns turns).transport = ⟨ops.foldl deliver c.transport, ops⟩ := by
  refine ⟨map_forget_turns c.recorded actions, ?_, transport_afterTurns c.recorded actions⟩
  generalize c.recorded = c
  induction actions generalizing c with
  | nil => exact List.forall_mem_nil _
  | cons a actions ih =>
    rcases turns_cons c a actions with ⟨-, hturns⟩ | ⟨-, hturns⟩
    · rw [hturns]
      exact List.forall_mem_singleton.2 (asksOnce c a)
    · rw [hturns]
      exact List.forall_mem_cons.2 ⟨asksOnce c a, ih (c.act a).client⟩

end Client

end LspClient
