import LspClient.Lsp.ServerCapabilities
import LspClient.Message.Payload

/-!
# The handshake

What a client says in `initialize`, what a server answers, and what it attaches to a refusal. A
client's capabilities are not interpreted, only passed on.
-/

namespace LspClient.Lsp

open Json (Decoder Field Members)

/-- The method of the handshake. -/
def initializeMethod : String :=
  "initialize"

/-- What a client can do. -/
structure ClientCapabilities where
  other : Members := []

namespace ClientCapabilities

/-- How capabilities are decoded: they have no modelled member. -/
def record : Json.Record Unit where
  name := "ClientCapabilities"
  layout := []
  build _ := .ok ()

/-- Decodes capabilities from an object. -/
def decode : Decoder ClientCapabilities := fun v ↦
  (record.decodeOpen v).map fun (_, other) ↦ { other }

/-- The JSON form of capabilities. -/
def json (c : ClientCapabilities) : Json :=
  .object c.other

end ClientCapabilities

/-- What a client says in the handshake. -/
structure InitializeParams where
  /-- The process that started the server. -/
  processId : Option UInt32 := some 1
  /-- The root of the workspace, if a folder is open. -/
  rootPath : Option String := some "/"
  capabilities : ClientCapabilities := {}

namespace InitializeParams

/-- The fields of the params. -/
def processIdField : Field := ⟨"processId", none⟩

@[inherit_doc processIdField]
def rootPathField : Field := ⟨"rootPath", none⟩

@[inherit_doc processIdField]
def capabilitiesField : Field := ⟨"capabilities", none⟩

/-- A process, or `null`. -/
def decodeProcessId : Decoder (Option UInt32) :=
  Json.decodeOption fun v ↦ (Json.decodeNat UInt32.size "u32" v).map UInt32.ofNat

/-- A path, or `null`. -/
def decodeRootPath : Decoder (Option String) :=
  Json.decodeOption Json.decodeString

/-- A member that may be missing from an object but not from an array. -/
def optional {α : Type} (source : Json.Source) (place : Nat) (f : Field)
    (decode : Decoder (Option α)) (whole : String) : Except Json.Mismatch (Option α) :=
  match source with
  | .members _ => (source.field place f decode).map Option.join
  | .elements _ => source.required place f decode whole

/-- How the params are decoded. -/
def record : Json.Record InitializeParams where
  name := "InitializeParams"
  layout := [
    (processIdField, Json.check decodeProcessId),
    (rootPathField, Json.check decodeRootPath),
    (capabilitiesField, Json.check ClientCapabilities.decode)]
  build source := do
    let whole := "struct InitializeParams with 3 elements"
    let processId ← optional source 0 processIdField decodeProcessId whole
    let rootPath ← optional source 1 rootPathField decodeRootPath whole
    let capabilities ← source.required 2 capabilitiesField ClientCapabilities.decode whole
    return { processId, rootPath, capabilities }

/-- The JSON form of the params, in their declared order. -/
def json (p : InitializeParams) : Json :=
  .object [("processId", Json.ofOption (fun n ↦ .ofNat n.toUInt64) p.processId),
    ("rootPath", Json.ofOption .string p.rootPath), ("capabilities", p.capabilities.json)]

/-- The params as a caller passes them. -/
def payload (p : InitializeParams) : Payload :=
  .json p.json

end InitializeParams

/-- What a server answers to the handshake. -/
structure InitializeResult where
  capabilities : ServerCapabilities := {}
  /-- Members that are not modelled. -/
  other : Members := []

namespace InitializeResult

/-- The field for the capabilities. -/
def capabilitiesField : Field := ⟨"capabilities", some "Capabilities"⟩

/-- Capabilities, `null` standing for none. -/
def decodeCapabilities : Decoder ServerCapabilities :=
  Json.orDefault {} ServerCapabilities.decode

/-- How the modelled part of the answer is decoded. -/
def record : Json.Record ServerCapabilities where
  name := "InitializeResult"
  layout := [(capabilitiesField, Json.check decodeCapabilities)]
  build source := do
    let capabilities ← source.field 0 capabilitiesField decodeCapabilities
    return capabilities.getD {}

/-- Decodes an answer from an object. -/
def decode : Decoder InitializeResult := fun v ↦
  (record.decodeOpen v).map fun (capabilities, other) ↦ { capabilities, other }

/-- The JSON form of an answer. -/
def json (r : InitializeResult) : Json :=
  .object (("capabilities", r.capabilities.json) :: r.other)

end InitializeResult

/-- What a server attaches to its refusal of the handshake. -/
structure InitializeError where
  /-- Whether the client should try again after it has shown the message. -/
  retry : Bool := false
  deriving DecidableEq, Repr

namespace InitializeError

/-- The field for the hint. -/
def retryField : Field := ⟨"retry", some "Retry"⟩

/-- How the hint is decoded. It may be missing, but not `null`. -/
def record : Json.Record InitializeError where
  name := "InitializeError"
  layout := [(retryField, Json.check Json.decodeBool)]
  build source := do
    let retry ← source.field 0 retryField Json.decodeBool
    return { retry := retry.getD false }

/-- The JSON form of the hint. -/
def json (e : InitializeError) : Json :=
  .object [("retry", .bool e.retry)]

end InitializeError

end LspClient.Lsp
