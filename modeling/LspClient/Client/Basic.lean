import LspClient.Client.Config
import LspClient.Lsp.Initialize
import LspClient.Message.Envelope
import LspClient.Message.Response
import LspClient.Transport.Basic

/-!
# The client

The client turns a method and params into a request, sends it over a transport, and matches the
response to the request. Each call is one exchange: one request, one response, and nothing is sent
twice. What is wrong with a call before it is sent is found before the transport is touched.

An error response without an id belongs to the request too: that is what a server sends that could
not even read the id.
-/

namespace LspClient

/-- Why a call or a notification failed. -/
inductive ClientError where
  /-- The method was blank, and nothing was sent. -/
  | invalidMethod
  /-- The params have no JSON form, and nothing was sent. -/
  | params (method : String) (fault : PayloadFault)
  /-- The message or its response did not make it. -/
  | transport (e : Transport.Error)
  /-- The server answered with an error. -/
  | rpc (id : Id) (e : RemoteError)
  /-- The server answered with something that is no response to the request. -/
  | protocol (e : ProtocolError)
  /-- The result is not of the shape that was asked for. -/
  | decode (method : String) (fault : Json.Mismatch)

namespace ClientError

/-- The wording of an error. -/
def message : ClientError → String
  | invalidMethod => "JSON-RPC method name must not be empty"
  | params method _ => s!"Failed to serialize params for method '{method}'"
  | transport e => e.message
  | rpc id e => s!"Server returned an error for request {id.shown}: {e.shown}"
  | protocol e => e.message
  | decode method _ => s!"Failed to decode the result of method '{method}'"

/-- The wording of what is behind an error, as far as it has one. -/
def cause : ClientError → Option String
  | params _ fault => some fault.message
  | transport (.io e) => some e.text
  | protocol (.malformed body fault) => some (fault.message body.toList)
  | decode _ fault => some fault.message
  | _ => none

end ClientError

/-- A client on a transport whose state is a `σ`. -/
structure Client (σ : Type) where
  transport : σ
  idStyle : IdStyle := .uuid
  paramsStyle : ParamsStyle := .positional
  /-- The next id, where ids are numbers. -/
  nextId : UInt64 := 1
  /-- The UUIDs that will be drawn, in order. -/
  uuids : Nat → String
  /-- How many of them have been drawn. -/
  drawn : Nat := 0

/-- What comes of one step of a client. -/
structure Step (σ α : Type) where
  outcome : Outcome ClientError α
  /-- The client afterwards. -/
  client : Client σ
  notes : List Note

/-- The step with its value replaced by what `f` makes of it. -/
def Step.andThen {σ α β : Type} (s : Step σ α) (f : α → Except ClientError β) : Step σ β where
  outcome :=
    match s.outcome with
    | .done a => .ofExcept (f a)
    | .failed e => .failed e
    | .never => .never
  client := s.client
  notes := s.notes

namespace Client

variable {σ : Type}

/-- Chooses the id of the next request. -/
def drawId (c : Client σ) : Id × Client σ :=
  match c.idStyle with
  | .uuid => (.string (c.uuids c.drawn), { c with drawn := c.drawn + 1 })
  | .sequential => (.number c.nextId, { c with nextId := c.nextId + 1 })

/-- The params of an envelope, if the method is not blank and the params have a JSON form. -/
def prepare (style : ParamsStyle) (method : String) (params : Payload) :
    Except ClientError (Option Json) :=
  if Text.isAllBlank method then .error .invalidMethod
  else
    match params.toJson with
    | .ok v => .ok (style.encode v)
    | .error fault => .error (.params method fault)

/-- The result that a response brings to the request of some id. -/
def correlate (expected : Id) (response : Response) : Except ClientError Json :=
  match response.answer with
  | .result v =>
    if response.id = expected then .ok v
    else .error (.protocol (.idMismatch expected response.id))
  | .error e =>
    if response.id = expected ∨ response.id = .null then .error (.rpc expected e)
    else .error (.protocol (.idMismatch expected response.id))

/-- The result that the body of a response brings to the request of some id. -/
def judge (expected : Id) (body : String) : Except ClientError Json :=
  match Response.parse body with
  | .ok response => correlate expected response
  | .error e => .error (.protocol e)

/-- The note of a message that is sent: the message itself. -/
def sentNote (message : String) : Note :=
  ⟨.debug, message⟩

/-- The note of a response. -/
def receivedNote : Note :=
  ⟨.debug, "Received response"⟩

/-- The notes that the judgement of a response calls for. -/
def judgementNotes : Except ClientError Json → List Note
  | .error (.protocol (.idMismatch _ _)) =>
    [⟨.warn, "Response id does not match request id"⟩]
  | _ => []

variable [Transport σ]

/-- Sends a message as a request, and judges the response as one to the request of some id. -/
def exchange (c : Client σ) (id : Id) (message : String) : Step σ Json :=
  let d := Transport.request c.transport message
  let client := { c with transport := d.transport }
  let notes := sentNote message :: d.notes
  match d.outcome with
  | .done body =>
    let result := judge id body
    ⟨.ofExcept result, client, notes ++ receivedNote :: judgementNotes result⟩
  | .failed e => ⟨.failed (.transport e), client, notes⟩
  | .never => ⟨.never, client, notes⟩

/-- Invokes a method and brings back the result as the server gave it. -/
def call (c : Client σ) (method : String) (params : Payload) : Step σ Json :=
  let (id, c) := c.drawId
  match prepare c.paramsStyle method params with
  | .error e => ⟨.failed e, c, []⟩
  | .ok params => c.exchange id (RequestEnvelope.text ⟨id, method, params⟩)

/-- Invokes a method and decodes the result. -/
def callAs {α : Type} (c : Client σ) (decode : Json.Decoder α) (method : String)
    (params : Payload) : Step σ α :=
  (c.call method params).andThen fun v ↦ (decode v).mapError (.decode method)

/-- Sends a notification. -/
def notify (c : Client σ) (method : String) (params : Payload) : Step σ Unit :=
  match prepare c.paramsStyle method params with
  | .error e => ⟨.failed e, c, []⟩
  | .ok params =>
    let message := NotificationEnvelope.text ⟨method, params⟩
    let d := Transport.notify c.transport message
    ⟨d.outcome.mapError .transport, { c with transport := d.transport },
      sentNote message :: d.notes⟩

/-- Performs the handshake. -/
def handshake (c : Client σ) (params : Lsp.InitializeParams) : Step σ Lsp.InitializeResult :=
  c.callAs Lsp.InitializeResult.decode Lsp.initializeMethod params.payload

end Client

end LspClient
