import LspClient.Json.TextRecord
import LspClient.Message.Id
import LspClient.Message.RemoteError

/-!
# Responses

A response claims to answer the request of some id, and carries a result or an error. Servers are
lax about "exactly one of the two": a `null` on the losing side counts as absent, while a `null`
result with no error is a successful response whose value is `null`. A missing id is the same as
`null`.

Responses are read straight from text, so a member that is there twice is a fault, and so is the
first thing of the wrong shape even where the text is broken further on.
-/

namespace LspClient

/-- What a response carries. -/
inductive Answer where
  | result (v : Json)
  | error (e : RemoteError)

/-- A response. -/
structure Response where
  id : Id
  answer : Answer

/-- Why a message is no usable response to a request. -/
inductive ProtocolError where
  /-- It is not the text of a response. -/
  | malformed (body : String) (fault : Json.Fault)
  /-- It answers another request. -/
  | idMismatch (expected actual : Id)
  /-- It has neither a result nor an error. -/
  | missingResult (id : Id)
  /-- It has both a result and an error. -/
  | resultAndError (id : Id)

/-- The wording of a protocol error. -/
def ProtocolError.message : ProtocolError → String
  | .malformed body _ => s!"Response is not a valid JSON-RPC response: {body}"
  | .idMismatch expected actual =>
    s!"Response id {actual.shown} does not match request id {expected.shown}"
  | .missingResult id => s!"Response to request {id.shown} has neither a result nor an error"
  | .resultAndError id => s!"Response to request {id.shown} has both a result and an error"

namespace Response

/-- The members of a response as they stand in its text: each is absent, or present with its value.
A `null` error is present without a value. -/
structure Parts where
  id : Option Id := none
  result : Option Json := none
  error : Option (Option Json) := none

open Json in
/-- Reads an id. Where it stands in is left by `leave` when it has the wrong shape. -/
def readId (leave : List Char → List Char) (s : List Char) : Reading Id s :=
  match orNull (readValue false innerDepth) s with
  | .error e => .error e
  | .ok t =>
    match t.value with
    | none => .ok ⟨.null, t.rest, t.shorter⟩
    | some v =>
      match Id.ofJson? v with
      | some id => .ok ⟨id, t.rest, t.shorter⟩
      | none => .error ⟨.mismatch (.noVariant "Id"), leave t.rest, 0⟩

open Json in
/-- Reads a member of a response, given its name and the text after the name. -/
def readMember (parts : Parts) (name s : List Char) : Reading Parts s :=
  let again (name : String) : Reading Parts s :=
    .error ⟨.mismatch (.duplicateField name), afterObject s, 0⟩
  if name = "id".toList then
    if parts.id.isSome then again "id"
    else (afterColon (readId afterObject) s).map (·.map fun id ↦ { parts with id := some id })
  else if name = "result".toList then
    if parts.result.isSome then again "result"
    else
      (afterColon (readValue true innerDepth) s).map (·.map fun v ↦ { parts with result := some v })
  else if name = "error".toList then
    if parts.error.isSome then again "error"
    else
      (afterColon (orNull (readValue true innerDepth)) s).map
        (·.map fun v ↦ { parts with error := some v })
  else (afterColon skipValue s).map (·.map fun _ ↦ parts)

open Json in
/-- Reads an element of a response that is an array: its id, its result, its error. -/
def readElement (parts : Parts) (place : Nat) :
    Option ((s : List Char) → Reading Parts s) :=
  match place with
  | 0 => some fun s ↦ (readId afterArray s).map (·.map fun id ↦ { parts with id := some id })
  | 1 => some fun s ↦
    (readValue true innerDepth s).map (·.map fun v ↦ { parts with result := some v })
  | 2 => some fun s ↦
    (orNull (readValue true innerDepth) s).map (·.map fun v ↦ { parts with error := some v })
  | _ => none

/-- The record of a response. -/
def record : Json.TextRecord Parts where
  name := "struct RawResponse"
  start := {}
  member := readMember
  element := readElement

/-- The response that parts make up, if they do. -/
def Parts.response (parts : Parts) : Except ProtocolError Response :=
  let id := parts.id.getD .null
  match parts.result, parts.error.join with
  | none, some error => .ok ⟨id, .error (.ofJson error)⟩
  | some .null, some error => .ok ⟨id, .error (.ofJson error)⟩
  | some _, some _ => .error (.resultAndError id)
  | some result, none => .ok ⟨id, .result result⟩
  | none, none => .error (.missingResult id)

/-- Reads a response from the body of a message. -/
def parse (body : String) : Except ProtocolError Response :=
  match record.read body.toList with
  | .error fault => .error (.malformed body fault)
  | .ok parts => parts.response

end Response

/-- Whether a message was sent on the server's initiative: it is a record with one member, `method`,
and that member is there and not `null`. Other members do not count. -/
def methodRecord : Json.TextRecord (Option Bool) where
  name := "struct ServerMessage"
  start := none
  member state name s :=
    if name = "method".toList then
      if state.isSome then
        .error ⟨.mismatch (.duplicateField "method"), Json.afterObject s, 0⟩
      else
        (Json.afterColon (Json.orNull Json.skipValue) s).map (·.map fun v ↦ some v.isSome)
    else (Json.afterColon Json.skipValue s).map (·.map fun _ ↦ state)
  element _ place :=
    if place = 0 then some fun s ↦ (Json.orNull Json.skipValue s).map (·.map fun v ↦ some v.isSome)
    else none

@[inherit_doc methodRecord]
def isServerMessage (message : String) : Bool :=
  match methodRecord.read message.toList with
  | .ok state => state.getD false
  | .error _ => false

end LspClient
