import LspClient.Proofs.Client.Run
import LspClient.Proofs.Message.Accepted
import LspClient.Transport.Http

/-!
# Answers under an error status

A body that can be read, as a response or as a value, is brought back under every status, so that a
call comes to what it would come to under a status of success (`Http.request_of_posted`). That is so
because the test of the body, which only skips over it, accepts whatever a reader that keeps
something of it accepts (`IsReadable.isWellFormed`): each reader passes over a text of the grammar,
and the skipping one accepts all of these.
-/

namespace LspClient

/-! ### Bodies that can be read -/

/-- A body is read as a response, whatever the response lacks or has too much of, or as a value. -/
def IsReadable (body : String) : Prop :=
  (∀ fault, Response.parse body ≠ .error (.malformed body fault)) ∨ ∃ v, Json.read body = .ok v

/-- What the keeping reader accepts, in a response or on its own, the skipping reader accepts. -/
theorem IsReadable.isWellFormed {body : String} (h : IsReadable body) :
    Json.isWellFormed body.toList = true := by
  refine Json.isWellFormed_iff_isText.2 ?_
  rcases h with hparse | ⟨v, hread⟩
  · refine Classical.byContradiction fun hbody ↦ ?_
    obtain ⟨fault, hfault⟩ := Response.parse_of_not_isText hbody
    exact hparse fault hfault
  · exact Json.isText_of_read hread

namespace Client

variable {σ : Type} [Transport σ]

/-- A call comes to the same over transports whose requests come to the same. -/
theorem call_outcome_congr {c : Client σ} {t : σ}
    (h : ∀ message, (Transport.request c.transport message).outcome =
      (Transport.request t message).outcome) (method : String) (params : Payload) :
    (c.call method params).outcome = ({ c with transport := t }.call method params).outcome := by
  have hid : ({ c with transport := t } : Client σ).drawId.1 = c.drawId.1 := by
    rw [drawId, drawId]
    cases c.idStyle <;> rfl
  cases hprepare : prepare c.paramsStyle method params with
  | error e =>
    have hprepare' : prepare ({ c with transport := t } : Client σ).paramsStyle method params =
        .error e := hprepare
    rw [call_of_error hprepare, call_of_error hprepare']
  | ok v =>
    have hprepare' : prepare ({ c with transport := t } : Client σ).paramsStyle method params =
        .ok v := hprepare
    rw [call_of_ok hprepare, call_of_ok hprepare', exchange_outcome, exchange_outcome,
      drawId_transport, drawId_transport, hid, h]

end Client

namespace Transport

namespace Http

variable {t t' : Http} {status : Nat} {body message : String}

/-! ### Messages that are posted -/

/-- What comes of posting does not depend on the message. -/
theorem post_outcome (t : Http) (message message' : String) :
    (t.post message).1 = (t.post message').1 := by
  rw [post, post]
  cases t.peer with
  | absent => rfl
  | server replies => cases replies <;> rfl

/-- A request that is answered brings back the body, or fails with the status if the body is no
response for the client. -/
theorem request_outcome (hpost : (t.post message).1 = .done (status, body)) :
    (t.request message).outcome =
      if isResponse status body then .done body else .failed (.status status body) := by
  rcases hwhole : t.post message with ⟨outcome, transport⟩
  rw [hwhole] at hpost
  obtain rfl : outcome = .done (status, body) := hpost
  rw [request, hwhole]
  dsimp only
  split <;> rfl

/-- A notification that is answered succeeds or fails by the status alone. -/
theorem notify_outcome (hpost : (t.post message).1 = .done (status, body)) :
    (t.notify message).outcome =
      if isSuccess status then .done () else .failed (.status status body) := by
  rcases hwhole : t.post message with ⟨outcome, transport⟩
  rw [hwhole] at hpost
  obtain rfl : outcome = .done (status, body) := hpost
  rw [notify, hwhole]
  dsimp only
  split <;> rfl

/-- A body that can be read is brought back, whatever the status. -/
theorem request_of_isReadable (hbody : IsReadable body)
    (hpost : (t.post message).1 = .done (status, body)) :
    (t.request message).outcome = .done body := by
  have hresponse : isResponse status body = true := by
    rw [isResponse, hbody.isWellFormed, Bool.or_true]
  rw [request_outcome hpost, if_pos hresponse]

/-! ### The status and the body -/

theorem isSuccess_iff : isSuccess status = true ↔ 200 ≤ status ∧ status ≤ 299 := by
  rw [isSuccess, Bool.and_eq_true, decide_eq_true_eq, decide_eq_true_eq]

/-- **A status never hides a body that can be read.** If a server answers, the request fails with
the status exactly if the status is none of success and the skipping reader rejects the body. A body
that some reader accepts is brought back under every status, and a call comes to what it comes to
when the server answers with that body and the status 200. A notification succeeds exactly if the
status is one of success, whatever the body. -/
theorem request_of_posted (hpost : (t.post message).1 = .done (status, body)) :
    ((t.request message).outcome = .failed (.status status body) ↔
      ¬(200 ≤ status ∧ status ≤ 299) ∧ Json.isWellFormed body.toList = false) ∧
    (IsReadable body → (t.request message).outcome = .done body ∧
      ∀ c : Client Http, c.transport = t → ∀ t' : Http, (t'.post message).1 = .done (200, body) →
        ∀ method params, (c.call method params).outcome =
          ({ c with transport := t' }.call method params).outcome) ∧
    (t.notify message).outcome =
      if 200 ≤ status ∧ status ≤ 299 then .done () else .failed (.status status body) := by
  refine ⟨?_, ?_, ?_⟩
  · rw [request_outcome hpost, isResponse, ← isSuccess_iff]
    cases isSuccess status <;> cases Json.isWellFormed body.toList <;> simp
  · intro hbody
    refine ⟨request_of_isReadable hbody hpost, ?_⟩
    intro c hc t' hpost'
    refine Client.call_outcome_congr fun message' ↦ ?_
    have hany : ((Http.post c.transport message').1) = .done (status, body) := by
      rw [hc, post_outcome t message' message, hpost]
    have hany' : (t'.post message').1 = .done (200, body) := by
      rw [post_outcome t' message' message, hpost']
    exact (request_of_isReadable hbody hany).trans (request_of_isReadable hbody hany').symm
  · simp only [notify_outcome hpost, isSuccess_iff]

/-- A transport whose server answers so. -/
def answered (status : Nat) (body : String) : Http where
  endpoint := { host := .domain "localhost".toList, path := [[]] }
  peer := .server [.response { status, body := Utf8.bytes body }]

/-- An error of the server's under a status that says so is brought back, as under the status 200. A
page that says no more than the status is not. -/
theorem request_of_posted_unavailable :
    let busy := "\x7b\"id\":1,\"error\":\"busy\"\x7d"
    let page := "<html>"
    ((answered 503 busy).request "").outcome = .done busy ∧
      (∀ method params, (Client.call ⟨answered 503 busy, .sequential, .positional, 1, fun _ ↦ "", 0⟩
          method params).outcome =
        (Client.call ⟨answered 200 busy, .sequential, .positional, 1, fun _ ↦ "", 0⟩
          method params).outcome) ∧
      ((answered 503 page).request "").outcome = .failed (.status 503 page) ∧
      ((answered 503 busy).notify "").outcome = .failed (.status 503 busy) := by
  intro busy page
  have hbusy : ((answered 503 busy).post "").1 = .done (503, busy) := by decide +kernel
  have hsuccess : ((answered 200 busy).post "").1 = .done (200, busy) := by decide +kernel
  have hpage : ((answered 503 page).post "").1 = .done (503, page) := by decide +kernel
  have hreadable : IsReadable busy := by
    have hread : (Json.read busy).toOption.isSome = true := by decide +kernel
    cases h : Json.read busy with
    | ok v => exact .inr ⟨v, h⟩
    | error e =>
      rw [h] at hread
      cases hread
  obtain ⟨-, hbody, hnotify⟩ := request_of_posted hbusy
  obtain ⟨hrequest, hcall⟩ := hbody hreadable
  refine ⟨hrequest, hcall ⟨answered 503 busy, .sequential, .positional, 1, fun _ ↦ "", 0⟩ rfl
    (answered 200 busy) hsuccess, (request_of_posted hpage).1.2 ⟨by decide, by decide +kernel⟩, ?_⟩
  rw [hnotify]
  rfl

end Http

end Transport

end LspClient
