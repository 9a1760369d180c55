import LspClient.Json.Reader
import LspClient.Text.Blank
import LspClient.Transport.Basic

/-!
# Prepared replies

A transport that takes its answers from a list and keeps what is sent to it. A body may leave a
place for the id of the request it answers.
-/

namespace LspClient.Transport

/-- What a prepared reply does. -/
inductive Reply where
  /-- Answers with a body. -/
  | body (template : String)
  /-- Fails. With `onNotify` it is for the next notification too. -/
  | fail (e : Error) (onNotify : Bool)

/-- A transport with prepared replies. -/
structure Replay where
  /-- The replies that are left. -/
  replies : List Reply
  /-- The messages received so far, latest first. -/
  received : List String := []

namespace Replay

/-- The place that a body leaves for an id. -/
def idPlace : List Char :=
  ['{', 'i', 'd', '}']

/-- The text of a message's id, `null` where it has none or is not JSON. -/
def idText (message : String) : List Char :=
  match Json.read message with
  | .ok v => (v.get "id").print
  | .error _ => Json.null.print

/-- A body with the id of the message it answers put in its place. -/
def fill (template message : String) : String :=
  String.ofList (Text.replaceAll idPlace (idText message) template.toList)

/-- Answers a request with the next reply; without one the transport is closed. -/
def request (t : Replay) (message : String) : Delivery Replay String :=
  let received := message :: t.received
  match t.replies with
  | [] => ⟨.failed .closed, { replies := [], received }, []⟩
  | .body template :: replies => ⟨.done (fill template message), { replies, received }, []⟩
  | .fail e _ :: replies => ⟨.failed e, { replies, received }, []⟩

/-- Takes a notification, which fails only if the next reply is for notifications. -/
def notify (t : Replay) (message : String) : Delivery Replay Unit :=
  let received := message :: t.received
  match t.replies with
  | .fail e true :: replies => ⟨.failed e, { replies, received }, []⟩
  | replies => ⟨.done (), { replies, received }, []⟩

end Replay

instance : LspClient.Transport Replay where
  request := Replay.request
  notify := Replay.notify

end LspClient.Transport
