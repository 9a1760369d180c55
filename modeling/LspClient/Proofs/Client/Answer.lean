import LspClient.Proofs.Client.Wire
import LspClient.Proofs.Message.Result
import LspClient.Proofs.Transport.Delivery

/-!
# What a call brings back

A call on a stream is decided by the first message behind the server's own, and leaves what is
delivered behind that message (`call_delivered`). If that message brings a result, the call gives
back the very result exactly if it is plain (`judge_resultMessage`): an object that begins with the
reserved name is read as the JSON text inside it. Together these say when a result makes it from the
server to the caller (`call_gives_result_iff`).
-/

namespace LspClient

open Transport

namespace Client

variable {c : Client Stream} {method : String} {params : Payload}

/-! ### Requests -/

/-- No request has the id `null`. -/
theorem drawId_ne_null (c : Client Stream) : c.drawId.1 ≠ .null := by
  rw [drawId]
  split
  · intro h
    cases h
  · intro h
    cases h

/-- The params of a call are in order if they have a JSON form. -/
theorem prepare_of_toJson {p : Json} (hmethod : Text.isAllBlank method = false)
    (hparams : params.toJson = .ok p) (style : ParamsStyle) :
    prepare style method params = .ok (style.encode p) := by
  rw [prepare, if_neg (by simp [hmethod]), hparams]

/-- The text of the request that a call sends. -/
def requestText (c : Client Stream) (method : String) (p : Json) : String :=
  RequestEnvelope.text ⟨c.drawId.1, method, c.paramsStyle.encode p⟩

/-! ### Answers -/

/-- A result is given back as it is exactly if it is plain. -/
theorem judge_resultMessage {id : Id} {v : Json} (hid : id ≠ .null) (hintegral : v.IsIntegral)
    (hcanonical : v.IsCanonical) (hdepth : v.depth ≤ Json.innerDepth) :
    judge id (resultMessage id v) = .ok v ↔ v.IsPlain := by
  rw [← parse_resultMessage hid hintegral hcanonical hdepth]
  constructor
  · exact judge_eq_ok
  · intro hparse
    rw [judge, hparse]
    exact if_pos rfl

/-! ### Calls -/

/-- **A call is decided by the message behind the server's own.** What comes of it is the judgement
of that message, the transport stays usable, and what is delivered behind the message is left. -/
theorem call_delivered {p : Json} {own : List String} {body : String} {rest : List UInt8}
    {later : List Arrival} (husable : c.transport.broken = false)
    (htimeout : c.transport.timeout = none) (hmethod : Text.isAllBlank method = false)
    (hparams : params.toJson = .ok p)
    (hwrite : (c.transport.writer.write none 0
      (c.transport.framing.pieces (c.requestText method p))).outcome = .done ())
    (hown : ∀ m ∈ own, c.transport.framing.Carries m) (hcount : own.length < greatestSkip)
    (hbody : isServerMessage body = false) (hsuits : c.transport.framing.Suits body)
    (hbrings : c.transport.reader.Brings
      (own.flatMap c.transport.framing.frame ++ (c.transport.framing.frame body ++ rest)) later) :
    (c.call method params).outcome = .ofExcept (judge c.drawId.1 body) ∧
      (c.call method params).client.transport.broken = false ∧
      (c.call method params).client.transport.reader.Brings rest later := by
  obtain ⟨houtcome, hbroken, hleft⟩ :=
    Stream.request_delivered husable htimeout hwrite hown hcount hbody hsuits hbrings
  have hcall : c.call method params = c.drawId.2.exchange c.drawId.1 (c.requestText method p) :=
    call_of_ok (prepare_of_toJson hmethod hparams c.paramsStyle)
  have htransport : (c.call method params).client.transport =
      (c.transport.request (c.requestText method p)).transport := by
    rw [hcall, exchange_client, drawId_transport]
  have hrequest : (Transport.request c.drawId.2.transport (c.requestText method p)).outcome =
      .done body := by
    rw [drawId_transport]
    exact houtcome
  rw [htransport]
  refine ⟨?_, hbroken, hleft⟩
  rw [hcall, exchange]
  simp only [hrequest]

/-- **A result makes it to the caller exactly if it is plain.** The server's stream holds messages
of its own, the message that brings the result, and more. Whether the result is plain or not, the
transport stays usable and what is left is what was delivered behind that message. -/
theorem call_gives_result_iff {p v : Json} {own : List String} {rest : List UInt8}
    {later : List Arrival} (husable : c.transport.broken = false)
    (htimeout : c.transport.timeout = none) (hmethod : Text.isAllBlank method = false)
    (hparams : params.toJson = .ok p)
    (hwrite : (c.transport.writer.write none 0
      (c.transport.framing.pieces (c.requestText method p))).outcome = .done ())
    (hintegral : v.IsIntegral) (hcanonical : v.IsCanonical) (hdepth : v.depth ≤ Json.innerDepth)
    (hlength : c.transport.framing = .contentLength →
      (resultMessage c.drawId.1 v).utf8ByteSize ≤ greatestLength)
    (hown : ∀ m ∈ own, c.transport.framing.Carries m) (hcount : own.length < greatestSkip)
    (hbrings : c.transport.reader.Brings (own.flatMap c.transport.framing.frame ++
      (c.transport.framing.frame (resultMessage c.drawId.1 v) ++ rest)) later) :
    ((c.call method params).outcome = .done v ↔ v.IsPlain) ∧
      (c.call method params).client.transport.broken = false ∧
      (c.call method params).client.transport.reader.Brings rest later := by
  have hsuits : c.transport.framing.Suits (resultMessage c.drawId.1 v) :=
    Json.suits_text_object (resultMembers c.drawId.1 v) hlength
  obtain ⟨houtcome, hbroken, hleft⟩ := call_delivered husable htimeout hmethod hparams hwrite hown
    hcount (isServerMessage_resultMessage hintegral) hsuits hbrings
  refine ⟨?_, hbroken, hleft⟩
  rw [houtcome, ← judge_resultMessage (drawId_ne_null c) hintegral hcanonical hdepth]
  constructor
  · exact ofExcept_eq_done
  · intro hjudge
    rw [hjudge]
    rfl

/-- A client whose server answers the first request with a result, behind messages of its own and
before more, in two chunks. -/
def answered (framing : Framing) (own : List String) (v : Json) (rest : List UInt8) :
    Client Stream :=
  let bytes := own.flatMap framing.frame ++ (framing.frame (resultMessage (.number 1) v) ++ rest)
  { transport :=
      { framing
        reader := ⟨bytes.take 5, [.data (bytes.drop 5), .silence]⟩
        writer := {} }
    idStyle := .sequential
    uuids _ := "" }

theorem answered_brings (framing : Framing) (own : List String) (v : Json) (rest : List UInt8) :
    (answered framing own v rest).transport.reader.Brings
      (own.flatMap framing.frame ++ (framing.frame (resultMessage (.number 1) v) ++ rest))
      [.silence] :=
  ⟨[.data _], List.forall_mem_singleton.2 rfl, rfl,
    by simp [answered, Arrival.bytes, List.take_append_drop]⟩

/-- A message of the server's own. -/
def logMessage : String :=
  "\x7b\"method\": \"log\"\x7d"

theorem logMessage_initiative : OnServersInitiative logMessage := by
  have hmember := Json.HasMembers.one .none (Json.spells_escape methodName) .none
    ⟨[' '], Text.forall_mem_of_all rfl⟩
    (.string (Json.spells_escape ['l', 'o', 'g']).isLiteral) .none
  exact ⟨.none, .none, _, _, _, hmember, by decide, rfl, by decide⟩

/-- A result with a container in a container. -/
def nested : Json :=
  .array [.null, .object [("a", .number (.negative 4)), ("b", .string "\n")]]

/-- That result makes it to the caller from behind a message of the server's own, and a byte behind
it is left. -/
theorem call_gives_result_nested :
    let c := answered .contentLength [logMessage] nested [0xFF]
    nested.IsIntegral ∧ nested.IsCanonical ∧ nested.depth ≤ Json.innerDepth ∧
      (resultMessage (.number 1) nested).utf8ByteSize ≤ greatestLength ∧
      Framing.contentLength.Carries logMessage ∧ nested.IsPlain ∧
      (c.call "m" .nothing).outcome = .done nested ∧
      (c.call "m" .nothing).client.transport.broken = false ∧
      (c.call "m" .nothing).client.transport.reader.Brings [0xFF] [.silence] := by
  intro c
  have hintegral : nested.IsIntegral :=
    ⟨trivial, trivial, ⟨trivial, trivial, trivial, trivial⟩, trivial⟩
  have hcanonical : nested.IsCanonical :=
    ⟨trivial, trivial, ⟨by decide, trivial, trivial, trivial⟩, trivial⟩
  have hdepth : nested.depth ≤ Json.innerDepth := by decide
  have hplain : nested.IsPlain :=
    ⟨trivial, trivial, ⟨by decide, trivial, trivial, trivial⟩, trivial⟩
  have hlength : (resultMessage (.number 1) nested).utf8ByteSize ≤ greatestLength := by
    decide +kernel
  have hcarries : Framing.contentLength.Carries logMessage := by
    refine ⟨logMessage_initiative, ?_⟩
    show logMessage.utf8ByteSize ≤ greatestLength
    decide
  have hwrite := Writer.write_none_eq_done (w := c.transport.writer) rfl rfl 0
    (c.transport.framing.pieces (c.requestText "m" .null))
  obtain ⟨hresult, hleft⟩ := @call_gives_result_iff c "m" .nothing .null nested [logMessage] [0xFF]
    [.silence] rfl rfl (by decide) rfl hwrite hintegral hcanonical hdepth (fun _ ↦ hlength)
    (List.forall_mem_singleton.2 hcarries) (by decide) (answered_brings _ _ _ _)
  exact ⟨hintegral, hcanonical, hdepth, hlength, hcarries, hplain, hresult.2 hplain, hleft⟩

/-- An object that begins with the reserved name. -/
def reserved : Json :=
  .object [("$serde_json::private::RawValue", .string "1")]

/-- That object does not make it to the caller, although all else is in order. -/
theorem call_reserved :
    let c := answered .lines [] reserved []
    c.transport.broken = false ∧ c.transport.timeout = none ∧ Text.isAllBlank "m" = false ∧
      Payload.nothing.toJson = .ok .null ∧
      (c.transport.writer.write none 0
        (c.transport.framing.pieces (c.requestText "m" .null))).outcome = .done () ∧
      reserved.IsIntegral ∧ reserved.IsCanonical ∧ reserved.depth ≤ Json.innerDepth ∧
      c.drawId.1 = .number 1 ∧
      c.transport.reader.Brings (Framing.lines.frame (resultMessage (.number 1) reserved))
        [.silence] ∧
      (c.call "m" .nothing).outcome ≠ .done reserved := by
  intro c
  have hintegral : reserved.IsIntegral := ⟨trivial, trivial, trivial⟩
  have hcanonical : reserved.IsCanonical := ⟨by decide, trivial, trivial⟩
  have hdepth : reserved.depth ≤ Json.innerDepth := by decide
  have hbrings := answered_brings .lines [] reserved []
  have hid : c.drawId.1 = .number 1 := rfl
  have hwrite := Writer.write_none_eq_done (w := c.transport.writer) rfl rfl 0
    (c.transport.framing.pieces (c.requestText "m" .null))
  have houtcome : (c.call "m" .nothing).outcome =
      .ofExcept (judge c.drawId.1 (resultMessage (.number 1) reserved)) := by
    have hsuits : Framing.lines.Suits (resultMessage (.number 1) reserved) := by
      refine Json.suits_text_object (resultMembers (.number 1) reserved) ?_
      intro hframing
      cases hframing
    obtain ⟨houtcome, -⟩ := @call_delivered c "m" .nothing .null [] _ [] [.silence] rfl rfl
      (by decide) rfl hwrite (List.forall_mem_nil _) (by decide)
      (isServerMessage_resultMessage hintegral) hsuits hbrings
    exact houtcome
  refine ⟨rfl, rfl, by decide, rfl, hwrite, hintegral, hcanonical, hdepth, hid, ?_, ?_⟩
  · rwa [List.flatMap_nil, List.nil_append, List.append_nil] at hbrings
  · intro hdone
    have hjudge := @judge_resultMessage (.number 1) reserved (by decide) hintegral hcanonical hdepth
    rw [houtcome, hid] at hdone
    have hplain : reserved.IsPlain := hjudge.1 (ofExcept_eq_done hdone)
    exact hplain.1 rfl

end Client

end LspClient
