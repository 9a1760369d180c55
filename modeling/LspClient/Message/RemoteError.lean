import LspClient.Json.Record

/-!
# Errors from the server

The contents of the `error` member of a response. A proper error object has an integer code, a
message and optionally data. Anything else that a server puts there is kept as it came.

The data of an error object are held as JSON text, and read again when they are asked for.
-/

namespace LspClient

/-- What a server reports as an error. -/
inductive RemoteError where
  /-- An error object. -/
  | object (code : Int) (message : String) (data : Option String)
  /-- Any other value. -/
  | bare (v : Json)

namespace RemoteError

/-- The fields of an error object. -/
def codeField : Json.Field := ⟨"code", none⟩

@[inherit_doc codeField]
def messageField : Json.Field := ⟨"message", none⟩

@[inherit_doc codeField]
def dataField : Json.Field := ⟨"data", none⟩

/-- A code is a 32-bit integer. -/
def decodeCode : Json.Decoder Int :=
  Json.decodeInt (-2147483648) 2147483647 "i32"

/-- Data are any value; `null` is no data. -/
def decodeData : Json.Decoder (Option Json) :=
  Json.decodeOption (Json.decodeValue Json.aloneInValue)

/-- An error object, as an object or as an array of its fields. -/
def record : Json.Record RemoteError where
  name := "ErrorObject"
  layout := [(codeField, Json.check decodeCode), (messageField, Json.check Json.decodeString),
    (dataField, Json.check decodeData)]
  build source := do
    let whole := "struct ErrorObject with 3 elements"
    let code ← source.required 0 codeField decodeCode whole
    let message ← source.required 1 messageField Json.decodeString whole
    let data ← source.field 2 dataField decodeData
    return .object code message (data.join.map Json.text)

/-- The error that a value stands for. -/
def ofJson (v : Json) : RemoteError :=
  match record.decode v with
  | .ok e => e
  | .error _ => .bare v

/-- The code, if the server gave one. -/
def code : RemoteError → Option Int
  | .object code _ _ => some code
  | .bare _ => none

/-- The message: the one of an error object, a string itself, or the text of any other value. -/
def message : RemoteError → String
  | .object _ message _ => message
  | .bare (.string s) => s
  | .bare v => v.text

/-- The data of an error object, if it has any. -/
def data : RemoteError → Option Json
  | .object _ _ (some text) => (Json.read text).toOption
  | _ => none

/-- The names of the codes that the protocol reserves. -/
def reservedName (code : Int) : Option String :=
  if code = -32700 then some "Parse error"
  else if code = -32600 then some "Invalid request"
  else if code = -32601 then some "Method not found"
  else if code = -32602 then some "Invalid params"
  else if code = -32603 then some "Internal error"
  else none

/-- An error as a message shows it: its code, with the name of a reserved one, and its message. -/
def shown (e : RemoteError) : String :=
  match e.code with
  | none => e.message
  | some code =>
    match reservedName code with
    | some name => s!"{Decimal.signedText code} ({name}): {e.message}"
    | none => s!"{Decimal.signedText code}: {e.message}"

end RemoteError

end LspClient
