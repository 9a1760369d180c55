import LspClient.Message.Id

/-!
# Envelopes

The objects that carry a call or a notification to the server. A request has an id that the response
must repeat; a notification has none. Params that are absent leave no member behind.
-/

namespace LspClient

/-- The version of the protocol that every envelope names. -/
def protocolVersion : Json :=
  .string "2.0"

/-- The member for params. -/
def paramsMember (params : Option Json) : Json.Members :=
  match params with
  | none => []
  | some v => [("params", v)]

/-- A method invocation. -/
structure RequestEnvelope where
  id : Id
  method : String
  params : Option Json

/-- The object that a request is sent as. -/
def RequestEnvelope.json (e : RequestEnvelope) : Json :=
  .object ([("jsonrpc", protocolVersion), ("id", e.id.json), ("method", .string e.method)] ++
    paramsMember e.params)

/-- The text that a request is sent as. -/
def RequestEnvelope.text (e : RequestEnvelope) : String :=
  e.json.text

/-- A message that the server does not answer. -/
structure NotificationEnvelope where
  method : String
  params : Option Json

/-- The object that a notification is sent as. -/
def NotificationEnvelope.json (e : NotificationEnvelope) : Json :=
  .object ([("jsonrpc", protocolVersion), ("method", .string e.method)] ++ paramsMember e.params)

/-- The text that a notification is sent as. -/
def NotificationEnvelope.text (e : NotificationEnvelope) : String :=
  e.json.text

end LspClient
