import LspClient.Proofs.Client.Run
import Mathlib.Data.List.Forall2

/-!
# Calls and their responses

In a run over a stream no call is given what was meant for another, whatever the server sends:
`run_answers` rests on two facts about single events.

* An event takes bytes of its own off what the server sends (`exists_owns`), so that what one call
  was handed no other call is. The message that a successful call was handed is a response to the id
  that the call wrote.
* A call takes the next number for its id, and numbers come round only after `UInt64.size` calls
  (`run_nextId`), so that no two calls of a shorter run have the same.
-/

namespace LspClient.Client

open Transport

/-! ### Single events -/

/-- How a call was answered: it wrote the whole of `message`, a request with the id drawn for it,
and was handed `body`, which is made of the bytes `frame` and is a response to that id. -/
structure Event.IsAnswered (e : Event) (message body : String) (frame : List UInt8)
    (result : Json) : Prop where
  request : ∃ params, prepare e.before.paramsStyle e.action.method e.action.params = .ok params ∧
    message = RequestEnvelope.text ⟨.number e.before.nextId, e.action.method, params⟩
  written : e.after.transport.writer.written =
    e.before.transport.writer.written ++ e.before.transport.framing.frame message
  handed : (e.before.transport.request message).outcome = .done body
  takes : (Scan.start e.before.transport.framing).Takes body frame
    e.after.transport.reader.incoming
  response : Response.parse body = .ok ⟨.number e.before.nextId, .result result⟩

/-- An event owns the bytes that it takes off what the server sends. If it is a call that succeeds,
the message it was handed lies at their end. -/
structure Event.Owns (e : Event) (segment : List UInt8) : Prop where
  incoming : e.before.transport.reader.incoming = segment ++ e.after.transport.reader.incoming
  /-- Nothing is written but a prefix of the frame of the event's own message. -/
  written : ∃ out, e.after.transport.writer.written = e.before.transport.writer.written ++ out ∧
    (out = [] ∨ ∃ op, e.before.operation? e.action = some op ∧
      out <+: e.before.transport.framing.frame op.message)
  answered : e.action.isCall = true → ∀ value, e.step.outcome = .done value →
    ∃ message body frame result, e.IsAnswered message body frame result ∧
      frame ≠ [] ∧ frame <:+ segment ∧ e.action.Accepts result value

variable {c : Client Stream}

/-- The request that a call comes down to carries the next number as its id. -/
theorem exists_of_operation?_eq_request (hstyle : c.idStyle = .sequential) {a : Action}
    {message : String} (h : c.operation? a = some (.request message)) :
    ∃ params, prepare c.paramsStyle a.method a.params = .ok params ∧
      message = RequestEnvelope.text ⟨.number c.nextId, a.method, params⟩ := by
  rw [operation?] at h
  split at h
  · cases h
  · rename_i params hprepare
    split at h
    · injection h with h
      injection h with h
      exact ⟨params, hprepare, by rw [← h, drawId_of_sequential hstyle]⟩
    · injection h with h
      cases h

/-- Every event owns the bytes that it takes. -/
theorem exists_owns (hstyle : c.idStyle = .sequential) (a : Action) :
    ∃ segment, Event.Owns ⟨c, a, c.perform a⟩ segment := by
  have htransport := perform_transport c a
  cases hop : c.operation? a with
  | none =>
    simp only [hop] at htransport
    -- validation failed, and the transport is as it was
    refine ⟨[], ?_, ⟨[], ?_, .inl rfl⟩, ?_⟩
    · simp only [Event.after, htransport, List.nil_append]
    · simp only [Event.after, htransport, List.append_nil]
    · intro hcall value h
      obtain ⟨message, -, -, hsome, -⟩ := exists_of_perform_eq_done hcall h
      rw [hop] at hsome
      cases hsome
  | some op =>
    simp only [hop] at htransport
    obtain ⟨segment, hsegment, htakes⟩ := c.transport.perform_incoming op
    obtain ⟨out, hout, hprefix, hwhole⟩ := c.transport.perform_written op
    rw [← htransport] at hsegment htakes hout
    refine ⟨segment, hsegment, ⟨out, hout, .inr ⟨op, hop, hprefix⟩⟩, ?_⟩
    intro hcall value h
    -- a call that succeeds was handed what its own request brought back
    obtain ⟨message, body, result, hsome, hhanded, hparse, haccepts⟩ :=
      exists_of_perform_eq_done hcall h
    obtain rfl : op = .request message := Option.some.inj (hop.symm.trans hsome)
    have hdone : (c.transport.perform (.request message)).outcome = .done (some body) := by
      simp only [Stream.perform, hhanded, Outcome.map]
    obtain ⟨skipped, frame, hsplit, hframe⟩ := htakes body hdone
    rw [drawId_of_sequential hstyle] at hparse
    refine ⟨message, body, frame, result, ?_, hframe.ne_nil, ⟨skipped, hsplit.symm⟩, haccepts⟩
    exact ⟨exists_of_operation?_eq_request hstyle hsome, hwhole _ hdone ▸ hout, hhanded, hframe,
      hparse⟩

/-! ### Runs -/

/-- The ids of the calls of a run are the numbers that follow each other from the client's. -/
theorem run_nextId (hstyle : c.idStyle = .sequential) {actions : List Action} {e : Event}
    (he : e ∈ c.run actions) (hcall : e.action.isCall = true) :
    ∃ k < actions.countP Action.isCall, e.before.nextId = c.nextId + UInt64.ofNat k := by
  induction actions generalizing c with
  | nil => cases he
  | cons a actions ih =>
    have hmem : e = ⟨c, a, c.perform a⟩ ∨ e ∈ (c.perform a).client.run actions := by
      rcases run_cons c a actions with hrun | hrun
      · exact .inl (List.mem_singleton.1 (hrun ▸ he))
      · exact List.mem_cons.1 (hrun ▸ he)
    rw [List.countP_cons]
    rcases hmem with rfl | hmem
    · exact ⟨0, by simp [show a.isCall = true from hcall], (UInt64.add_zero _).symm⟩
    · -- the ids after this action are counted from the next number on
      obtain ⟨hstyle', hnext⟩ := perform_nextId hstyle a
      obtain ⟨k, hk, hid⟩ := ih hstyle' hmem
      rw [hnext] at hid
      cases ha : a.isCall with
      | true =>
        refine ⟨k + 1, by simpa using hk, ?_⟩
        rw [hid, ha, UInt64.ofNat_add, UInt64.add_comm (UInt64.ofNat k), UInt64.add_assoc]
        rfl
      | false =>
        refine ⟨k, by simpa using hk, ?_⟩
        rw [hid, ha]
        exact congrArg (· + UInt64.ofNat k) (UInt64.add_zero c.nextId)

/-- A number does not come round within `UInt64.size` steps. -/
theorem ne_add_one_add_ofNat {n : UInt64} {k : Nat} (h : k + 1 < UInt64.size) :
    n ≠ n + 1 + UInt64.ofNat k := by
  intro heq
  have hnat := congrArg UInt64.toNat heq
  have hn := n.toNat_lt
  rw [UInt64.toNat_add, UInt64.toNat_add, UInt64.toNat_ofNat_of_lt' (by omega)] at hnat
  simp only [UInt64.size, UInt64.toNat_one] at h hnat
  omega

/-- No two calls of a run have the same id. -/
theorem run_pairwise (hstyle : c.idStyle = .sequential) {actions : List Action}
    (hcount : actions.countP Action.isCall < UInt64.size) :
    (c.run actions).Pairwise fun e e' ↦ e.action.isCall = true → e'.action.isCall = true →
      e.before.nextId ≠ e'.before.nextId := by
  induction actions generalizing c with
  | nil => exact .nil
  | cons a actions ih =>
    rw [List.countP_cons] at hcount
    rcases run_cons c a actions with hrun | hrun
    · rw [hrun]
      exact List.pairwise_singleton _ _
    · rw [hrun]
      obtain ⟨hstyle', hnext⟩ := perform_nextId hstyle a
      refine .cons ?_ (ih hstyle' (by omega))
      intro e he hcall hcall'
      obtain ⟨k, hk, hid⟩ := run_nextId hstyle' he hcall'
      simp only at hcall
      simp only [hcall, if_true] at hcount hnext
      rw [hid, hnext]
      exact ne_add_one_add_ofNat (by omega)

/-- **No cross-talk.** Whatever the server sends, its bytes fall into one segment for each event of
a run, and into what none of them took. A call that succeeds was handed one message, made of bytes
of its own segment, which is a response to the id that the call wrote, and its value is made of the
result in it. No other call has that id. -/
theorem run_answers (c : Client Stream) (actions : List Action) (hstyle : c.idStyle = .sequential)
    (hcount : actions.countP Action.isCall < UInt64.size) :
    ∃ segments : List (List UInt8),
      c.transport.reader.incoming =
        segments.flatten ++ (c.after (c.run actions)).transport.reader.incoming ∧
      List.Forall₂ Event.Owns (c.run actions) segments ∧
      (c.run actions).Pairwise fun e e' ↦ e.action.isCall = true → e'.action.isCall = true →
        e.before.nextId ≠ e'.before.nextId := by
  suffices hsegments : ∃ segments : List (List UInt8),
      c.transport.reader.incoming =
        segments.flatten ++ (c.after (c.run actions)).transport.reader.incoming ∧
      List.Forall₂ Event.Owns (c.run actions) segments by
    obtain ⟨segments, hflatten, howns⟩ := hsegments
    exact ⟨segments, hflatten, howns, run_pairwise hstyle hcount⟩
  clear hcount
  induction actions generalizing c with
  | nil => exact ⟨[], rfl, .nil⟩
  | cons a actions ih =>
    obtain ⟨segment, howns⟩ := exists_owns hstyle a
    rcases run_cons c a actions with hrun | hrun
    · rw [hrun]
      refine ⟨[segment], ?_, .cons howns .nil⟩
      rw [List.flatten_cons, List.flatten_nil, List.append_nil]
      exact howns.incoming
    · obtain ⟨segments, hflatten, hrest⟩ := ih (c.perform a).client (perform_nextId hstyle a).1
      rw [hrun]
      refine ⟨segment :: segments, ?_, .cons howns hrest⟩
      rw [List.flatten_cons, List.append_assoc]
      exact howns.incoming.trans (congrArg (segment ++ ·) hflatten)

/-- A client whose server answers the first request twice, and no other. -/
def answeredTwice : Client Stream where
  transport :=
    { framing := .lines
      reader := ⟨Utf8.bytes "\x7b\"id\":1,\"result\":5\x7d\n\x7b\"id\":1,\"result\":5\x7d\n", []⟩
      writer := {} }
  idStyle := .sequential
  uuids _ := ""

/-- Two calls. -/
def twoCalls : List Action :=
  [.call "m" .nothing, .call "m" .nothing]

/-- Of two calls on that client the first is answered. The second is given a response to the first,
which it does not take for its own. -/
theorem run_answers_answeredTwice :
    let first := answeredTwice.call "m" .nothing
    let second := first.client.call "m" .nothing
    answeredTwice.idStyle = .sequential ∧ twoCalls.countP Action.isCall < UInt64.size ∧
      answeredTwice.run twoCalls = [⟨answeredTwice, .call "m" .nothing, first⟩,
        ⟨first.client, .call "m" .nothing, second⟩] ∧
      (first.outcome.map Json.text).mapError ClientError.message = .done "5" ∧
      (second.outcome.map Json.text).mapError ClientError.message =
        .failed "Response id 1 does not match request id 2" ∧
      ∃ segment segment' : List UInt8,
        answeredTwice.transport.reader.incoming =
          segment ++ (segment' ++ second.client.transport.reader.incoming) ∧
        Event.Owns ⟨answeredTwice, .call "m" .nothing, first⟩ segment ∧
        Event.Owns ⟨first.client, .call "m" .nothing, second⟩ segment' ∧
        answeredTwice.nextId ≠ first.client.nextId := by
  intro first second
  have hfirst : (first.outcome.map Json.text).mapError ClientError.message = .done "5" := by
    decide +kernel
  have hsecond : (second.outcome.map Json.text).mapError ClientError.message =
      .failed "Response id 1 does not match request id 2" := by
    decide +kernel
  have hrun : answeredTwice.run twoCalls = [⟨answeredTwice, .call "m" .nothing, first⟩,
      ⟨first.client, .call "m" .nothing, second⟩] := by
    have hperform : answeredTwice.perform (.call "m" .nothing) = first := rfl
    have hperform' : first.client.perform (.call "m" .nothing) = second := rfl
    rw [twoCalls, run, hperform, run, hperform']
    cases houtcome : first.outcome with
    | never => rw [houtcome] at hfirst; cases hfirst
    | done value => cases second.outcome <;> rfl
    | failed e => cases second.outcome <;> rfl
  obtain ⟨segments, hincoming, howns, hids⟩ := run_answers answeredTwice twoCalls rfl (by decide)
  rw [hrun] at hincoming howns hids
  -- each of the two calls has a segment of its own
  obtain ⟨segment, rest, hown, hrest, rfl⟩ := List.forall₂_cons_left_iff.1 howns
  obtain ⟨segment', none, hown', hnone, rfl⟩ := List.forall₂_cons_left_iff.1 hrest
  obtain rfl := List.forall₂_nil_left_iff.1 hnone
  rw [List.flatten_cons, List.flatten_cons, List.flatten_nil, List.append_nil,
    List.append_assoc] at hincoming
  have hid := (List.pairwise_cons.1 hids).1 _ List.mem_cons_self rfl rfl
  exact ⟨rfl, by decide, hrun, hfirst, hsecond, segment, segment', hincoming, hown, hown', hid⟩

end LspClient.Client
