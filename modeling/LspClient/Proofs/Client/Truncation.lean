import LspClient.Proofs.Client.Answer
import LspClient.Proofs.Transport.Truncation

/-!
# No answer from a stream that ends too early

A call whose server sends the front of a message that is an object, and then ends the stream, fails,
and not with an error of the server's (`call_truncated`). If the front of the message is read at
all, it is no text (`Scan.not_isText_of_final`), and what is no text is no response
(`Response.parse_of_not_isText`). Such a call never succeeds (`call_of_front`); that it returns
takes a writer that does not hold it up for ever.
-/

namespace LspClient

open Transport Json

namespace Client

variable {c : Client Stream} {method : String} {params : Payload}

/-- No server is asked whether a call is in order. -/
theorem prepare_ne_rpc {style : ParamsStyle} {e : ClientError}
    (h : prepare style method params = .error e) (id : Id) (r : RemoteError) : e ≠ .rpc id r := by
  rcases prepare_eq_error h with rfl | ⟨fault, rfl⟩ <;> exact nofun

/-- What is no text is no answer, neither a result nor an error of the server's. -/
theorem judge_of_not_isText {body : String} (h : ¬ IsText body.toList) (expected : Id) :
    ∃ e, judge expected body = .error e ∧ ∀ id r, e ≠ .rpc id r := by
  obtain ⟨fault, hparse⟩ := Response.parse_of_not_isText h
  refine ⟨_, by rw [judge, hparse], ?_⟩
  intro id r hrpc
  cases hrpc

/-- If the server's stream holds the front of what it takes to read an object and then ends, a call
fails with an error that is not the server's, or else it waits for ever on a writer that blocks. -/
theorem call_of_front {message : String} {p : List UInt8} (hvalue : Derives .value message.toList)
    (hobject : message.toList.head? = some '{')
    (hline : c.transport.framing = .lines → '\n' ∉ message.toList)
    (hfront : p <+: c.transport.framing.needed message)
    (hcut : p ≠ c.transport.framing.needed message) (hbrings : c.transport.reader.Brings p []) :
    (∃ e, (c.call method params).outcome = .failed e ∧ ∀ id r, e ≠ .rpc id r) ∨
      (c.call method params).outcome = .never ∧ c.transport.timeout = none ∧
        c.transport.writer.stop? = some .block := by
  cases hprepare : prepare c.paramsStyle method params with
  | error e =>
    rw [call_of_error hprepare]
    exact .inl ⟨e, rfl, prepare_ne_rpc hprepare⟩
  | ok v =>
    obtain ⟨hdone, hnever⟩ := Stream.request_final hbrings
      (fun body hbody ↦ Scan.not_isText_of_final hvalue hobject hline hfront hcut hbody)
      (RequestEnvelope.text ⟨c.drawId.1, method, v⟩)
    have htransport : (Transport.request c.drawId.2.transport
        (RequestEnvelope.text ⟨c.drawId.1, method, v⟩)).outcome =
          (c.transport.request (RequestEnvelope.text ⟨c.drawId.1, method, v⟩)).outcome := by
      rw [drawId_transport]
      rfl
    rw [call_of_ok hprepare, exchange]
    simp only [htransport]
    cases houtcome :
      (c.transport.request (RequestEnvelope.text ⟨c.drawId.1, method, v⟩)).outcome with
    | done body =>
      obtain ⟨e, hjudge, hrpc⟩ := judge_of_not_isText (hdone body houtcome) c.drawId.1
      exact .inl ⟨e, by simp only [hjudge, Outcome.ofExcept], hrpc⟩
    | failed e =>
      refine .inl ⟨.transport e, rfl, ?_⟩
      intro id r hrpc
      cases hrpc
    | never => exact .inr ⟨rfl, hnever houtcome⟩

/-- **A truncated response is no answer.** If the server's stream holds the front of what it takes
to read an object and then ends, a call returns an error, and one that is not the server's. The
writer may fail, refuse or be slow; only if nothing limits the time must it not block for ever. -/
theorem call_truncated {message : String} {p : List UInt8} (hvalue : Derives .value message.toList)
    (hobject : message.toList.head? = some '{')
    (hline : c.transport.framing = .lines → '\n' ∉ message.toList)
    (hfront : p <+: c.transport.framing.needed message)
    (hcut : p ≠ c.transport.framing.needed message) (hbrings : c.transport.reader.Brings p [])
    (hwriter : c.transport.timeout = none → c.transport.writer.stop? ≠ some .block) :
    ∃ e, (c.call method params).outcome = .failed e ∧ ∀ id r, e ≠ .rpc id r := by
  rcases call_of_front hvalue hobject hline hfront hcut hbrings with herror | ⟨-, htimeout, hblock⟩
  · exact herror
  · exact absurd hblock (hwriter htimeout)

/-- A client whose server sends so many bytes of what it takes to read a message, and no more. -/
def truncated (framing : Framing) (message : String) (length : Nat) : Client Stream where
  transport :=
    { framing
      reader := ⟨[], [.data ((framing.needed message).take length)]⟩
      writer := {} }
  idStyle := .sequential
  uuids _ := ""

theorem truncated_brings (framing : Framing) (message : String) (length : Nat) :
    (truncated framing message length).transport.reader.Brings
      ((framing.needed message).take length) [] :=
  ⟨[.data _], List.forall_mem_singleton.2 rfl, rfl, List.append_nil _⟩

/-- A result that is more than one byte long in a single character. -/
def accented : String :=
  resultMessage (.number 1) (.string "é")

/-- Neither a line that lacks only its last brace nor a header that lacks only its last newline is
an answer. -/
theorem call_truncated_accented :
    let line := truncated .lines accented 37
    let header := truncated .contentLength accented 21
    line.transport.writer.stop? ≠ some .block ∧ header.transport.writer.stop? ≠ some .block ∧
      (∃ e, (line.call "m" .nothing).outcome = .failed e ∧ ∀ id r, e ≠ .rpc id r) ∧
      ∃ e, (header.call "m" .nothing).outcome = .failed e ∧ ∀ id r, e ≠ .rpc id r := by
  intro line header
  have htext : accented.toList = (Json.object (resultMembers (.number 1) (.string "é"))).print :=
    String.toList_ofList
  have hvalue : Derives .value accented.toList := by
    rw [htext]
    exact derives_print ⟨trivial, trivial, trivial, trivial, trivial⟩
  have hobject : accented.toList.head? = some '{' := by
    rw [htext]
    rfl
  have hlines : '\n' ∉ accented.toList := by decide +kernel
  have hline : (Framing.lines.needed accented).take 37 ≠ Framing.lines.needed accented := by
    decide +kernel
  have hheader : (Framing.contentLength.needed accented).take 21 ≠
      Framing.contentLength.needed accented := by
    decide +kernel
  have hwriter : ∀ framing length,
      (truncated framing accented length).transport.writer.stop? ≠ some .block :=
    fun _ _ ↦ nofun
  refine ⟨hwriter _ _, hwriter _ _, ?_, ?_⟩
  · exact call_truncated hvalue hobject (fun _ ↦ hlines) (List.take_prefix 37 _) hline
      (truncated_brings .lines accented 37) fun _ ↦ hwriter _ _
  · exact call_truncated hvalue hobject (fun _ ↦ hlines) (List.take_prefix 21 _) hheader
      (truncated_brings .contentLength accented 21) fun _ ↦ hwriter _ _

end Client

end LspClient
