import LspClient.Json.Skipper
import LspClient.Transport.Basic
import LspClient.Url.Basic

/-!
# HTTP transports

A transport that posts each message on its own and takes the body of the answer for the response. A
server may well report an error under a status that says so. If the body is JSON, it is for the
client to make sense of; otherwise the status is all there is to report. A notification has no
response, and any status but success refuses it.
-/

namespace LspClient.Transport

/-- An answer of an HTTP server. -/
structure HttpResponse where
  status : Nat
  body : List UInt8 := []
  /-- Less of the body arrived than was promised. -/
  truncated : Bool := false
  deriving DecidableEq, Repr

/-- What a server does with a message that was posted. -/
inductive HttpReply where
  | response (r : HttpResponse)
  /-- It does not answer. -/
  | silence
  deriving DecidableEq, Repr

/-- What there is where messages are posted to. -/
inductive HttpPeer where
  /-- No server, or none that can be reached. -/
  | absent
  /-- A server with so many replies left. After the last it closes the connection. -/
  | server (replies : List HttpReply)
  deriving DecidableEq, Repr

/-- A message that a server received. -/
structure HttpRequest where
  line : String
  contentType : String
  accept : String
  contentLength : Nat
  body : String
  deriving DecidableEq, Repr

/-- A transport that posts messages. -/
structure Http where
  endpoint : Url
  /-- The time for an exchange, in milliseconds. -/
  timeout : Option Nat := none
  peer : HttpPeer
  /-- What the server received, latest first. -/
  received : List HttpRequest := []
  deriving DecidableEq, Repr

namespace Http

/-- The media type of messages. -/
def mediaType : String :=
  "application/json"

/-- The request that carries a message. -/
def carry (endpoint : Url) (message : String) : HttpRequest where
  line := s!"POST {String.ofList endpoint.target} HTTP/1.1"
  contentType := mediaType
  accept := mediaType
  contentLength := message.utf8ByteSize
  body := message

/-- The text of a body. A byte order mark in front does not belong to it. -/
def bodyText (body : List UInt8) : String :=
  match Utf8.decodeLenient body with
  | '\uFEFF' :: s => String.ofList s
  | s => String.ofList s

/-- What comes of an exchange: the status and the text of the body. -/
def settle (timeout : Option Nat) : HttpReply → Outcome Error (Nat × String)
  | .silence =>
    match timeout with
    | some _ => .failed (.http { timeout := true })
    | none => .never
  | .response r => if r.truncated then .failed (.http {}) else .done (r.status, bodyText r.body)

/-- Posts a message. -/
def post (t : Http) (message : String) : Outcome Error (Nat × String) × Http :=
  match t.peer with
  | .absent => (.failed (.http { connect := true }), t)
  | .server replies =>
    let received := carry t.endpoint message :: t.received
    match replies with
    | [] => (.failed (.http {}), { t with received })
    | reply :: replies => (settle t.timeout reply, { t with received, peer := .server replies })

/-- The note of an answer. -/
def answerNote : Note :=
  ⟨.trace, "HTTP response received"⟩

/-- The note of a request that failed with a body that is no JSON. -/
def failureNote : Note :=
  ⟨.debug, "HTTP request failed with a non-JSON body"⟩

/-- The note of a notification that the server refused. -/
def rejectionNote : Note :=
  ⟨.debug, "HTTP notification was rejected"⟩

/-- Whether an answer is a response for the client. -/
def isResponse (status : Nat) (body : String) : Bool :=
  isSuccess status || Json.isWellFormed body.toList

/-- Posts a request and brings back the response. -/
def request (t : Http) (message : String) : Delivery Http String :=
  match t.post message with
  | (.done (status, body), transport) =>
    if isResponse status body then ⟨.done body, transport, [answerNote]⟩
    else ⟨.failed (.status status body), transport, [answerNote, failureNote]⟩
  | (.failed e, transport) => ⟨.failed e, transport, []⟩
  | (.never, transport) => ⟨.never, transport, []⟩

/-- Posts a notification. -/
def notify (t : Http) (message : String) : Delivery Http Unit :=
  match t.post message with
  | (.done (status, body), transport) =>
    if isSuccess status then ⟨.done (), transport, [answerNote]⟩
    else ⟨.failed (.status status body), transport, [answerNote, rejectionNote]⟩
  | (.failed e, transport) => ⟨.failed e, transport, []⟩
  | (.never, transport) => ⟨.never, transport, []⟩

end Http

instance : LspClient.Transport Http where
  request := Http.request
  notify := Http.notify

end LspClient.Transport
