import LspClient.Proofs.Transport.Pipe
import LspClient.Transport.Stream

/-!
# One operation on a stream

What a request or a notification does to the two streams, whatever comes of it. It takes bytes off
the front of what the server has still to send, and a response is made of the last bytes taken
(`perform_incoming`). It writes a prefix of the frame of its message, and the whole frame if it
succeeds (`perform_written`). If it fails the transport is broken (`perform_broken`), and a broken
transport refuses everything (`perform_of_broken`).
-/

namespace LspClient.Transport.Stream

/-- What can be asked of a transport. -/
inductive Operation where
  | request (message : String)
  | notify (message : String)

/-- The message that an operation is to send. -/
def Operation.message : Operation → String
  | request message => message
  | notify message => message

/-- Performs an operation. Only a request brings something back. -/
def perform (s : Stream) : Operation → Delivery Stream (Option String)
  | .request message =>
    let d := s.request message
    ⟨d.outcome.map some, d.transport, d.notes⟩
  | .notify message =>
    let d := s.notify message
    ⟨d.outcome.map fun _ ↦ none, d.transport, d.notes⟩

variable {s : Stream} {message : String}

/-! ### Waiting for a response -/

/-- Waiting takes bytes off the front of what is to come. A response is no message of the server's
own, and is made of the last bytes taken. -/
theorem awaitResponse_incoming (framing : Framing) (limit : Option Nat) (attempts waited : Nat)
    (r : Reader) :
    ∃ taken, r.incoming =
        taken ++ (awaitResponse framing limit attempts waited r).reading.reader.incoming ∧
      ∀ body, (awaitResponse framing limit attempts waited r).reading.outcome = .done body →
        isServerMessage body = false ∧ ∃ skipped frame, taken = skipped ++ frame ∧
          (Scan.start framing).Takes body frame
            (awaitResponse framing limit attempts waited r).reading.reader.incoming := by
  induction attempts generalizing waited r with
  | zero =>
    refine ⟨[], rfl, ?_⟩
    intro body h
    cases h
  | succ attempts ih =>
    obtain ⟨taken, htaken, htakes⟩ := r.read_incoming framing limit waited
    rw [awaitResponse]
    cases houtcome : (r.read framing limit waited).outcome with
    | done message =>
      by_cases hserver : isServerMessage message = true
      · -- it is skipped, and its bytes go in front of those that are taken later
        simp only [hserver, if_true]
        obtain ⟨later, hlater, hbody⟩ := ih (r.read framing limit waited).waited
          (r.read framing limit waited).reader
        refine ⟨taken ++ later, by rw [htaken, hlater, List.append_assoc], ?_⟩
        intro body h
        obtain ⟨hown, skipped, frame, hsplit, htakes'⟩ := hbody body h
        exact ⟨hown, taken ++ skipped, frame, by rw [hsplit, List.append_assoc], htakes'⟩
      · simp only [hserver, Bool.false_eq_true, if_false]
        refine ⟨taken, htaken, ?_⟩
        intro body h
        obtain rfl : message = body := by
          rw [houtcome] at h
          injection h
        exact ⟨Bool.not_eq_true _ ▸ hserver, [], taken, rfl, htakes message houtcome⟩
    | failed e =>
      refine ⟨taken, htaken, ?_⟩
      intro body h
      cases houtcome.symm.trans h
    | never =>
      refine ⟨taken, htaken, ?_⟩
      intro body h
      cases houtcome.symm.trans h

/-! ### Exchanges -/

/-- An exchange whose message is written waits for the response, and has waited as long as the
writing took. -/
theorem exchange_of_done {limit : Option Nat}
    (h : (s.writer.write limit 0 (s.framing.pieces message)).outcome = .done ()) :
    s.exchange limit message =
      let x := awaitResponse s.framing limit greatestSkip
        (s.writer.write limit 0 (s.framing.pieces message)).waited s.reader
      ⟨x.reading.outcome, x.reading.reader,
        (s.writer.write limit 0 (s.framing.pieces message)).writer, x.reading.waited,
        x.skipped⟩ := by
  simp only [exchange, h]

/-- An exchange whose message is not written does not read: it comes to what the writing comes
to. -/
theorem exchange_of_stopped {limit : Option Nat}
    (h : (s.writer.write limit 0 (s.framing.pieces message)).outcome ≠ .done ()) :
    s.exchange limit message =
      let x := s.writer.write limit 0 (s.framing.pieces message)
      ⟨x.outcome.map fun _ ↦ "", s.reader, x.writer, x.waited, []⟩ := by
  rw [exchange]
  cases houtcome : (s.writer.write limit 0 (s.framing.pieces message)).outcome with
  | done u => exact absurd houtcome h
  | failed e => simp only [houtcome, Outcome.map]
  | never => simp only [houtcome, Outcome.map]

theorem map_eq_never {α β : Type} {f : α → β} {outcome : Outcome Error α}
    (h : outcome.map f = .never) : outcome = .never := by
  cases outcome with
  | done a => cases h
  | failed e => cases h
  | never => rfl

/-- An exchange whose message is not written brings nothing back. -/
theorem exchange_ne_done {limit : Option Nat}
    (h : (s.writer.write limit 0 (s.framing.pieces message)).outcome ≠ .done ()) (body : String) :
    (s.exchange limit message).outcome ≠ .done body := by
  rw [exchange_of_stopped h]
  dsimp only
  cases hwrite : (s.writer.write limit 0 (s.framing.pieces message)).outcome with
  | done u => exact absurd hwrite h
  | failed e => exact nofun
  | never => exact nofun

/-- An exchange writes what the writer makes of its message. -/
theorem exchange_writer (limit : Option Nat) (s : Stream) (message : String) :
    (s.exchange limit message).writer =
      (s.writer.write limit 0 (s.framing.pieces message)).writer := by
  by_cases h : (s.writer.write limit 0 (s.framing.pieces message)).outcome = .done ()
  · rw [exchange_of_done h]
  · rw [exchange_of_stopped h]

theorem cutOff_eq_done {α : Type} {timeout : Option Nat} {outcome : Outcome Error α} {a : α}
    (h : cutOff timeout outcome = .done a) : outcome = .done a := by
  cases outcome with
  | done b => exact h
  | failed e => exact h
  | never => cases timeout <;> cases h

/-- Nothing is cut off without a timeout. -/
theorem cutOff_none {α : Type} (outcome : Outcome Error α) : cutOff none outcome = outcome := by
  cases outcome <;> rfl

/-! ### Requests and notifications -/

theorem request_of_broken (h : s.broken = true) : s.request message = ⟨.failed .closed, s, []⟩ :=
  if_pos h

theorem notify_of_broken (h : s.broken = true) : s.notify message = ⟨.failed .closed, s, []⟩ :=
  if_pos h

/-- A request on a transport that is not broken is an exchange. -/
theorem request_of_usable (h : s.broken = false) (message : String) :
    s.request message =
      let x := s.exchange s.timeout message
      let outcome := cutOff s.timeout x.outcome
      { outcome
        transport := { s with reader := x.reader, writer := x.writer, broken := isFailure outcome }
        notes := x.skipped.map skippedNote ++ outcomeNotes outcome } :=
  if_neg (by simp [h])

/-- A notification on a transport that is not broken is written. -/
theorem notify_of_usable (h : s.broken = false) (message : String) :
    s.notify message =
      let x := s.writer.write none 0 (s.framing.pieces message)
      { outcome := x.outcome
        transport := { s with writer := x.writer, broken := isFailure x.outcome }
        notes := outcomeNotes x.outcome } :=
  if_neg (by simp [h])

/-- The framing stays. -/
theorem request_framing (s : Stream) (message : String) :
    (s.request message).transport.framing = s.framing := by
  cases h : s.broken with
  | true => rw [request_of_broken h]
  | false => rw [request_of_usable h]

@[inherit_doc request_framing]
theorem notify_framing (s : Stream) (message : String) :
    (s.notify message).transport.framing = s.framing := by
  cases h : s.broken with
  | true => rw [notify_of_broken h]
  | false => rw [notify_of_usable h]

/-- A request takes bytes off the front of what is to come. The response is made of the last of
them. -/
theorem request_incoming (s : Stream) (message : String) :
    ∃ taken, s.reader.incoming = taken ++ (s.request message).transport.reader.incoming ∧
      ∀ body, (s.request message).outcome = .done body → ∃ skipped frame,
        taken = skipped ++ frame ∧ (Scan.start s.framing).Takes body frame
          (s.request message).transport.reader.incoming := by
  cases hbroken : s.broken with
  | true =>
    rw [request_of_broken hbroken]
    refine ⟨[], rfl, ?_⟩
    intro body h
    cases h
  | false =>
    rw [request_of_usable hbroken]
    by_cases hdone : (s.writer.write s.timeout 0 (s.framing.pieces message)).outcome = .done ()
    · rw [exchange_of_done hdone]
      obtain ⟨taken, htaken, htakes⟩ := awaitResponse_incoming s.framing s.timeout greatestSkip
        (s.writer.write s.timeout 0 (s.framing.pieces message)).waited s.reader
      exact ⟨taken, htaken, fun body h ↦ (htakes body (cutOff_eq_done h)).2⟩
    · refine ⟨[], ?_, fun body h ↦ absurd (cutOff_eq_done h) (exchange_ne_done hdone body)⟩
      rw [exchange_of_stopped hdone, List.nil_append]

/-- A notification takes nothing of what is to come. -/
theorem notify_reader (s : Stream) (message : String) :
    (s.notify message).transport.reader = s.reader := by
  cases h : s.broken with
  | true => rw [notify_of_broken h]
  | false => rw [notify_of_usable h]

/-- A request writes a prefix of the frame of its message, and the whole frame if it brings back a
response. -/
theorem request_written (s : Stream) (message : String) :
    ∃ out, (s.request message).transport.writer.written = s.writer.written ++ out ∧
      out <+: s.framing.frame message ∧
      ∀ body, (s.request message).outcome = .done body → out = s.framing.frame message := by
  cases hbroken : s.broken with
  | true =>
    rw [request_of_broken hbroken]
    refine ⟨[], (List.append_nil _).symm, List.nil_prefix, ?_⟩
    intro body h
    cases h
  | false =>
    obtain ⟨out, hout, hprefix, hwhole⟩ :=
      Writer.write_written s.timeout 0 s.writer (s.framing.pieces message)
    rw [request_of_usable hbroken]
    refine ⟨out, by simp only [exchange_writer, hout], hprefix, fun body h ↦ hwhole ?_⟩
    by_cases hdone : (s.writer.write s.timeout 0 (s.framing.pieces message)).outcome = .done ()
    · exact hdone
    · exact absurd (cutOff_eq_done h) (exchange_ne_done hdone body)

/-- A notification writes a prefix of the frame of its message, and the whole frame if it
succeeds. -/
theorem notify_written (s : Stream) (message : String) :
    ∃ out, (s.notify message).transport.writer.written = s.writer.written ++ out ∧
      out <+: s.framing.frame message ∧
      ((s.notify message).outcome = .done () → out = s.framing.frame message) := by
  cases hbroken : s.broken with
  | true =>
    rw [notify_of_broken hbroken]
    refine ⟨[], (List.append_nil _).symm, List.nil_prefix, ?_⟩
    intro h
    cases h
  | false =>
    rw [notify_of_usable hbroken]
    exact Writer.write_written none 0 s.writer (s.framing.pieces message)

/-! ### Operations -/

theorem isFailure_map {α β : Type} (f : α → β) (outcome : Outcome Error α) :
    isFailure (outcome.map f) = isFailure outcome := by
  cases outcome <;> rfl

theorem cutOff_map {α β : Type} (limit : Option Nat) (f : α → β) (outcome : Outcome Error α) :
    cutOff limit (outcome.map f) = (cutOff limit outcome).map f := by
  cases outcome <;> cases limit <;> rfl

theorem exists_of_map_eq_done {α β : Type} {f : α → β} {outcome : Outcome Error α} {b : β}
    (h : outcome.map f = .done b) : ∃ a, outcome = .done a ∧ f a = b := by
  cases outcome with
  | done a => injection h with h; exact ⟨a, rfl, h⟩
  | failed e => cases h
  | never => cases h

/-- An operation on a broken transport is refused, and the transport stays as it is. -/
theorem perform_of_broken (h : s.broken = true) (op : Operation) :
    s.perform op = ⟨.failed .closed, s, []⟩ := by
  cases op with
  | request message => rw [perform, request_of_broken h]; rfl
  | notify message => rw [perform, notify_of_broken h]; rfl

theorem broken_of_perform {op : Operation} (h : (s.perform op).outcome ≠ .failed .closed) :
    s.broken = false := by
  cases hbroken : s.broken with
  | true => exact absurd (congrArg Delivery.outcome (perform_of_broken hbroken op)) h
  | false => rfl

/-- An operation on a transport that is not broken breaks it exactly if it fails. -/
theorem perform_broken (h : s.broken = false) (op : Operation) :
    (s.perform op).transport.broken = isFailure (s.perform op).outcome := by
  cases op with
  | request message => rw [perform, request_of_usable h]; exact (isFailure_map _ _).symm
  | notify message => rw [perform, notify_of_usable h]; exact (isFailure_map _ _).symm

/-- No operation changes the framing. -/
theorem perform_framing (s : Stream) (op : Operation) :
    (s.perform op).transport.framing = s.framing := by
  cases op with
  | request message => exact request_framing s message
  | notify message => exact notify_framing s message

/-- No operation changes the timeout. -/
theorem perform_timeout (s : Stream) (op : Operation) :
    (s.perform op).transport.timeout = s.timeout := by
  cases hbroken : s.broken with
  | true => rw [perform_of_broken hbroken]
  | false =>
    cases op with
    | request message => rw [perform, request_of_usable hbroken]
    | notify message => rw [perform, notify_of_usable hbroken]

/-- An operation takes bytes off the front of what is to come. A response is made of the last of
them. -/
theorem perform_incoming (s : Stream) (op : Operation) :
    ∃ taken, s.reader.incoming = taken ++ (s.perform op).transport.reader.incoming ∧
      ∀ body, (s.perform op).outcome = .done (some body) → ∃ skipped frame,
        taken = skipped ++ frame ∧ (Scan.start s.framing).Takes body frame
          (s.perform op).transport.reader.incoming := by
  cases op with
  | request message =>
    obtain ⟨taken, htaken, htakes⟩ := request_incoming s message
    refine ⟨taken, htaken, ?_⟩
    intro body h
    obtain ⟨body', hbody, hsome⟩ := exists_of_map_eq_done h
    exact htakes body (Option.some.inj hsome ▸ hbody)
  | notify message =>
    refine ⟨[], congrArg Reader.incoming (notify_reader s message).symm, ?_⟩
    intro body h
    obtain ⟨_, -, hnone⟩ := exists_of_map_eq_done h
    cases hnone

/-- The limit of time for an operation. Only a request is given the timeout. -/
def Operation.limit : Operation → (timeout : Option Nat) → Option Nat
  | .request _, timeout => timeout
  | .notify _, _ => none

/-- An operation on a transport that is not broken writes what the writer makes of its message. -/
theorem perform_writer (h : s.broken = false) (op : Operation) :
    (s.perform op).transport.writer =
      (s.writer.write (op.limit s.timeout) 0 (s.framing.pieces op.message)).writer := by
  cases op with
  | request message => rw [perform, request_of_usable h]; exact exchange_writer s.timeout s message
  | notify message => rw [perform, notify_of_usable h]; rfl

/-- A stream that takes every byte: it has no bound, and if there is a timeout, no delays that are
longer. -/
structure TakesAll (s : Stream) : Prop where
  room : s.writer.room = none
  prompt : ∀ ms, s.timeout = some ms → s.writer.delays.sum ≤ ms

/-- To a stream that takes every byte an operation adds the frame of its message, and leaves a
stream that takes every byte. -/
theorem TakesAll.perform (h : s.TakesAll) (hbroken : s.broken = false) (op : Operation) :
    (s.perform op).transport.writer.written =
        s.writer.written ++ s.framing.frame op.message ∧
      (s.perform op).transport.TakesAll := by
  let n := (s.framing.pieces op.message).flatten.length + 1
  have hsum := s.writer.delay_add_sum_drop n
  have hin : inTime (op.limit s.timeout) (0 + s.writer.delay n) = true := by
    cases hlimit : op.limit s.timeout with
    | none => rfl
    | some ms =>
      have htimeout : s.timeout = some ms := by
        cases op with
        | request message => exact hlimit
        | notify message => cases hlimit
      have hle := h.prompt ms htimeout
      exact decide_eq_true (by omega)
  have hwriter := perform_writer hbroken op
  rw [Writer.write_of_room_eq_none h.room hin] at hwriter
  refine ⟨congrArg Writer.written hwriter, congrArg Writer.room hwriter |>.trans h.room, ?_⟩
  intro ms htimeout
  rw [perform_timeout] at htimeout
  rw [hwriter]
  exact Nat.le_trans (Nat.le.intro (Nat.add_comm _ _ ▸ hsum)) (h.prompt ms htimeout)

/-- An operation writes a prefix of the frame of its message, and the whole frame if it succeeds. -/
theorem perform_written (s : Stream) (op : Operation) :
    ∃ out, (s.perform op).transport.writer.written = s.writer.written ++ out ∧
      out <+: s.framing.frame op.message ∧
      ∀ response, (s.perform op).outcome = .done response → out = s.framing.frame op.message := by
  cases op with
  | request message =>
    obtain ⟨out, hout, hprefix, hwhole⟩ := request_written s message
    refine ⟨out, hout, hprefix, ?_⟩
    intro response h
    obtain ⟨body, hbody, -⟩ := exists_of_map_eq_done h
    exact hwhole body hbody
  | notify message =>
    obtain ⟨out, hout, hprefix, hwhole⟩ := notify_written s message
    refine ⟨out, hout, hprefix, ?_⟩
    intro response h
    obtain ⟨_, hdone, -⟩ := exists_of_map_eq_done h
    exact hwhole hdone

end LspClient.Transport.Stream
