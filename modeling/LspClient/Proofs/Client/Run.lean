import LspClient.Client.Basic
import LspClient.Proofs.Transport.Exchange

/-!
# Runs of a client

A run performs actions one after another: calls, calls whose result is decoded, handshakes and
notifications. It stops where an action never returns.

An action comes down to at most one operation on the transport (`perform_transport`), and to none
when the method is blank or the params have no JSON form (`operation?`). A call succeeds only with a
result that the server gave in a response to the id that was drawn for it
(`exists_of_perform_eq_done`).
-/

namespace LspClient

open Transport

namespace Client

/-- What a client can be asked to do. -/
inductive Action : Type 1 where
  | call (method : String) (params : Payload)
  | callAs {α : Type} (decode : Json.Decoder α) (method : String) (params : Payload)
  | handshake (params : Lsp.InitializeParams)
  | notify (method : String) (params : Payload)

namespace Action

/-- What an action brings back. -/
def Value : Action → Type
  | .call _ _ => Json
  | @callAs α _ _ _ => α
  | .handshake _ => Lsp.InitializeResult
  | .notify _ _ => Unit

/-- Whether an action is a call, to which there is a response. -/
def isCall : Action → Bool
  | .notify _ _ => false
  | _ => true

/-- The method of an action. -/
def method : Action → String
  | .call method _ | .callAs _ method _ | .notify method _ => method
  | .handshake _ => Lsp.initializeMethod

/-- The params of an action. -/
def params : Action → Payload
  | .call _ params | .callAs _ _ params | .notify _ params => params
  | .handshake params => params.payload

/-- The value that a call brings back is made of a result: it is the result itself, or what the
result decodes to. -/
def Accepts : (a : Action) → Json → a.Value → Prop
  | .call _ _, result, value => value = result
  | .callAs decode _ _, result, value => decode result = .ok value
  | .handshake _, result, value => Lsp.InitializeResult.decode result = .ok value
  | .notify _ _, _, _ => False

/-- What is no call is a notification. -/
theorem exists_notify {a : Action} (h : a.isCall = false) :
    ∃ method params, a = .notify method params := by
  cases a with
  | notify method params => exact ⟨method, params, rfl⟩
  | call | callAs | handshake => cases h

end Action

/-- Performs an action. -/
def perform (c : Client Stream) : (a : Action) → Step Stream a.Value
  | .call method params => c.call method params
  | .callAs decode method params => c.callAs decode method params
  | .handshake params => c.handshake params
  | .notify method params => c.notify method params

/-- Performs an action on any transport. -/
def act {σ : Type} [Transport σ] (c : Client σ) : (a : Action) → Step σ a.Value
  | .call method params => c.call method params
  | .callAs decode method params => c.callAs decode method params
  | .handshake params => c.handshake params
  | .notify method params => c.notify method params

/-- On a stream an action does the same, however the transport is looked at. -/
theorem act_eq_perform (c : Client Stream) (a : Action) : c.act a = c.perform a := by
  cases a <;> rfl

/-- The operation on the transport that an action comes down to, if it passes validation. -/
def operation? (c : Client Stream) (a : Action) : Option Stream.Operation :=
  match prepare c.paramsStyle a.method a.params with
  | .error _ => none
  | .ok params =>
    if a.isCall then some (.request (RequestEnvelope.text ⟨c.drawId.1, a.method, params⟩))
    else some (.notify (NotificationEnvelope.text ⟨a.method, params⟩))

/-! ### Calls -/

section

variable {σ : Type} {c : Client σ} {method : String} {params : Payload}

theorem drawId_of_sequential (h : c.idStyle = .sequential) :
    c.drawId = (.number c.nextId, { c with nextId := c.nextId + 1 }) := by
  simp only [drawId, h]

theorem drawId_transport (c : Client σ) : c.drawId.2.transport = c.transport := by
  rw [drawId]
  split <;> rfl

theorem drawId_paramsStyle (c : Client σ) : c.drawId.2.paramsStyle = c.paramsStyle := by
  rw [drawId]
  split <;> rfl

/-- There are two things that validation finds wrong. -/
theorem prepare_eq_error {style : ParamsStyle} {e : ClientError}
    (h : prepare style method params = .error e) :
    e = .invalidMethod ∨ ∃ fault, e = .params method fault := by
  rw [prepare] at h
  split at h
  case isTrue =>
    cases h
    exact .inl rfl
  case isFalse =>
    split at h
    · cases h
    · rename_i fault _
      cases h
      exact .inr ⟨fault, rfl⟩

variable [Transport σ]

/-- A call that is found wrong does not touch the transport. -/
theorem call_of_error {e : ClientError} (h : prepare c.paramsStyle method params = .error e) :
    c.call method params = ⟨.failed e, c.drawId.2, []⟩ := by
  rw [call]
  simp only [drawId_paramsStyle, h]

/-- A call that is in order is one exchange. -/
theorem call_of_ok {v : Option Json} (h : prepare c.paramsStyle method params = .ok v) :
    c.call method params =
      c.drawId.2.exchange c.drawId.1 (RequestEnvelope.text ⟨c.drawId.1, method, v⟩) := by
  rw [call]
  simp only [drawId_paramsStyle, h]

/-- An exchange comes to what the client makes of what its request comes to. -/
theorem exchange_outcome (c : Client σ) (id : Id) (message : String) :
    (c.exchange id message).outcome =
      match (Transport.request c.transport message).outcome with
      | .done body => .ofExcept (judge id body)
      | .failed e => .failed (.transport e)
      | .never => .never := by
  rw [exchange]
  cases (Transport.request c.transport message).outcome <;> rfl

/-- An exchange changes the client only in its transport. -/
theorem exchange_changes (c : Client σ) (id : Id) (message : String) :
    (c.exchange id message).client =
      { c with transport := (Transport.request c.transport message).transport } := by
  rw [exchange]
  split <;> rfl

end

variable {c : Client Stream} {method : String} {params : Payload}

@[inherit_doc exchange_changes]
theorem exchange_client (c : Client Stream) (id : Id) (message : String) :
    (c.exchange id message).client =
      { c with transport := (c.transport.request message).transport } :=
  exchange_changes c id message

/-- What `correlate` accepts is the result of a response to the request. -/
theorem correlate_eq_ok {expected : Id} {response : Response} {result : Json}
    (h : correlate expected response = .ok result) : response = ⟨expected, .result result⟩ := by
  obtain ⟨id, answer⟩ := response
  cases answer with
  | result v =>
    simp only [correlate] at h
    split at h
    · rename_i hid
      cases h
      rw [hid]
    · cases h
  | error e =>
    simp only [correlate] at h
    split at h <;> cases h

/-- A response that is judged good is one to this id, with this result. -/
theorem judge_eq_ok {expected : Id} {body : String} {result : Json}
    (h : judge expected body = .ok result) :
    Response.parse body = .ok ⟨expected, .result result⟩ := by
  rw [judge] at h
  split at h
  · rename_i response hparse
    rw [hparse, correlate_eq_ok h]
  · cases h

/-- An exchange that succeeds was handed a response to its own id. -/
theorem exists_of_exchange_eq_done {id : Id} {message : String} {result : Json}
    (h : (c.exchange id message).outcome = .done result) :
    ∃ body, (c.transport.request message).outcome = .done body ∧
      Response.parse body = .ok ⟨id, .result result⟩ := by
  rw [exchange] at h
  split at h
  · rename_i body hbody
    exact ⟨body, hbody, judge_eq_ok (ofExcept_eq_done h)⟩
  · cases h
  · cases h

/-- A call that succeeds passed validation, and was handed a response to the id drawn for it. -/
theorem exists_of_call_eq_done {result : Json}
    (h : (c.call method params).outcome = .done result) :
    ∃ v body, prepare c.paramsStyle method params = .ok v ∧
      (c.transport.request (RequestEnvelope.text ⟨c.drawId.1, method, v⟩)).outcome = .done body ∧
      Response.parse body = .ok ⟨c.drawId.1, .result result⟩ := by
  cases hprepare : prepare c.paramsStyle method params with
  | error e =>
    rw [call_of_error hprepare] at h
    cases h
  | ok v =>
    rw [call_of_ok hprepare] at h
    obtain ⟨body, hbody, hparse⟩ := exists_of_exchange_eq_done h
    exact ⟨v, body, rfl, drawId_transport c ▸ hbody, hparse⟩

/-! ### Actions -/

theorem andThen_ok {σ α : Type} (step : Step σ α) : step.andThen .ok = step := by
  obtain ⟨outcome, client, notes⟩ := step
  cases outcome <;> rfl

/-- A step that goes on to a value has brought back one that leads to it. -/
theorem exists_of_andThen_eq_done {σ α β : Type} {step : Step σ α} {f : α → Except ClientError β}
    {b : β} (h : (step.andThen f).outcome = .done b) :
    ∃ a, step.outcome = .done a ∧ f a = .ok b := by
  obtain ⟨outcome, client, notes⟩ := step
  cases outcome with
  | done a => exact ⟨a, rfl, ofExcept_eq_done h⟩
  | failed e => cases h
  | never => cases h

theorem mapError_eq_ok {ε ε' α : Type} {f : ε → ε'} {x : Except ε α} {a : α}
    (h : x.mapError f = .ok a) : x = .ok a := by
  cases x with
  | ok b => injection h with h; rw [h]
  | error e => cases h

theorem exists_of_mapError_eq_error {ε ε' α : Type} {f : ε → ε'} {x : Except ε α} {e' : ε'}
    (h : x.mapError f = .error e') : ∃ e, x = .error e ∧ f e = e' := by
  cases x with
  | ok b => cases h
  | error e => injection h with h; exact ⟨e, rfl, h⟩

/-- Every call, on any transport, is the plain call followed by what it makes of the result, which
can only fail to decode. -/
theorem act_of_isCall {σ : Type} [Transport σ] (c : Client σ) {a : Action} (h : a.isCall = true) :
    ∃ accept : Json → Except ClientError a.Value,
      c.act a = (c.call a.method a.params).andThen accept ∧
        (∀ result value, accept result = .ok value → a.Accepts result value) ∧
        ∀ result e, accept result = .error e → ∃ fault, e = .decode a.method fault := by
  have hdecodes : ∀ {α : Type} (decode : Json.Decoder α) method (result : Json) e,
      (decode result).mapError (.decode method) = .error e →
        ∃ fault, e = ClientError.decode method fault := by
    intro α decode method result e he
    obtain ⟨fault, -, hfault⟩ := exists_of_mapError_eq_error he
    exact ⟨fault, hfault.symm⟩
  cases a with
  | call method params =>
    exact ⟨.ok, (andThen_ok _).symm, fun result value h ↦ (Except.ok.inj h).symm, nofun⟩
  | callAs decode method params =>
    exact ⟨fun v ↦ (decode v).mapError (.decode method), rfl, fun _ _ h ↦ mapError_eq_ok h,
      hdecodes decode method⟩
  | handshake params =>
    exact ⟨fun v ↦ (Lsp.InitializeResult.decode v).mapError (.decode Lsp.initializeMethod), rfl,
      fun _ _ h ↦ mapError_eq_ok h, hdecodes Lsp.InitializeResult.decode Lsp.initializeMethod⟩
  | notify method params => cases h

/-- Every call is the plain call followed by what it makes of the result. -/
theorem perform_of_isCall {a : Action} (h : a.isCall = true) :
    ∃ accept : Json → Except ClientError a.Value,
      c.perform a = (c.call a.method a.params).andThen accept ∧
        ∀ result value, accept result = .ok value → a.Accepts result value := by
  obtain ⟨accept, haccept, hvalue, -⟩ := act_of_isCall c h
  exact ⟨accept, (act_eq_perform c a).symm.trans haccept, hvalue⟩

/-- What a call leaves is the client of the plain call. -/
theorem perform_client {a : Action} (h : a.isCall = true) :
    (c.perform a).client = (c.call a.method a.params).client := by
  obtain ⟨accept, haccept, -⟩ := perform_of_isCall (c := c) h
  rw [haccept]
  rfl

/-- A call that succeeds was handed a response to its own id, and made its value of the result. -/
theorem exists_of_perform_eq_done {a : Action} (hcall : a.isCall = true) {value : a.Value}
    (h : (c.perform a).outcome = .done value) :
    ∃ message body result, c.operation? a = some (.request message) ∧
      (c.transport.request message).outcome = .done body ∧
      Response.parse body = .ok ⟨c.drawId.1, .result result⟩ ∧ a.Accepts result value := by
  obtain ⟨accept, haccept, hvalue⟩ := perform_of_isCall (c := c) hcall
  rw [haccept] at h
  obtain ⟨result, hresult, hmade⟩ := exists_of_andThen_eq_done h
  obtain ⟨v, body, hprepare, hbody, hparse⟩ := exists_of_call_eq_done hresult
  refine ⟨_, body, result, ?_, hbody, hparse, hvalue result value hmade⟩
  simp only [operation?, hprepare, hcall, if_true]

/-- An action that fails validation leaves the transport alone, and any other performs its operation
on it. -/
theorem perform_transport (c : Client Stream) (a : Action) :
    (c.perform a).client.transport =
      match c.operation? a with
      | none => c.transport
      | some op => (c.transport.perform op).transport := by
  cases hcall : a.isCall with
  | true =>
    rw [perform_client hcall]
    cases hprepare : prepare c.paramsStyle a.method a.params with
    | error e =>
      rw [call_of_error hprepare]
      simp only [operation?, hprepare, drawId_transport]
    | ok v =>
      rw [call_of_ok hprepare, exchange_client]
      simp only [operation?, hprepare, hcall, if_true, drawId_transport, Stream.perform]
  | false =>
    obtain ⟨method, params, rfl⟩ := Action.exists_notify hcall
    cases hprepare : prepare c.paramsStyle method params with
    | error e => simp only [perform, notify, operation?, Action.method, Action.params, hprepare]
    | ok v =>
      simp only [perform, notify, operation?, Action.method, Action.params, Action.isCall,
        hprepare]
      rfl

/-- A call takes one id, and a notification none. -/
theorem perform_nextId (hstyle : c.idStyle = .sequential) (a : Action) :
    (c.perform a).client.idStyle = .sequential ∧
      (c.perform a).client.nextId = c.nextId + if a.isCall then 1 else 0 := by
  cases hcall : a.isCall with
  | true =>
    rw [perform_client hcall]
    cases hprepare : prepare c.paramsStyle a.method a.params with
    | error e =>
      rw [call_of_error hprepare, drawId_of_sequential hstyle]
      exact ⟨hstyle, rfl⟩
    | ok v =>
      rw [call_of_ok hprepare, exchange_client, drawId_of_sequential hstyle]
      exact ⟨hstyle, rfl⟩
  | false =>
    obtain ⟨method, params, rfl⟩ := Action.exists_notify hcall
    rw [perform, notify]
    split
    · exact ⟨hstyle, (UInt64.add_zero _).symm⟩
    · exact ⟨hstyle, (UInt64.add_zero _).symm⟩

/-! ### Runs -/

/-- One action of a run, with the client before it. -/
structure Event where
  before : Client Stream
  action : Action
  step : Step Stream action.Value

/-- The client after an event. -/
def Event.after (e : Event) : Client Stream :=
  e.step.client

/-- Performs actions, each on what the one before it leaves, up to one that never returns. -/
def run (c : Client Stream) : List Action → List Event
  | [] => []
  | a :: actions =>
    let step := c.perform a
    ⟨c, a, step⟩ ::
      match step.outcome with
      | .never => []
      | _ => run step.client actions

/-- The client after events. -/
def after (c : Client Stream) (events : List Event) : Client Stream :=
  events.foldl (fun _ e ↦ e.after) c

/-- A run is an action, and then either nothing, if that never returns, or a run of the rest. -/
theorem run_cons (c : Client Stream) (a : Action) (actions : List Action) :
    c.run (a :: actions) = [⟨c, a, c.perform a⟩] ∨
      c.run (a :: actions) = ⟨c, a, c.perform a⟩ :: (c.perform a).client.run actions := by
  rw [run]
  cases (c.perform a).outcome with
  | never => exact .inl rfl
  | done value => exact .inr rfl
  | failed e => exact .inr rfl

end Client

end LspClient
