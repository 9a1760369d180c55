import LspClient.Json.Record

/-!
# Providers

Most capabilities of a server are a flag or, in newer versions of the protocol, an options object
whose presence means that the feature is supported.
-/

namespace LspClient.Lsp

open Json (Decoder Members)

/-- Whether, and how, a server supports a feature. -/
inductive Provider where
  | flag (enabled : Bool)
  | options (members : Members)

namespace Provider

/-- Decodes a truth value or an object. -/
def decode : Decoder Provider :=
  Json.decodeEither "Provider" (fun v ↦ (Json.decodeBool v).map flag)
    (fun v ↦ (Json.decodeObject v).map options)

/-- The JSON form of a provider. -/
def json : Provider → Json
  | flag enabled => .bool enabled
  | options members => .object members

/-- Whether the feature is supported. -/
def isEnabled : Provider → Bool
  | flag enabled => enabled
  | options _ => true

end Provider

/-- A member for an optional value, left out where there is none. -/
def optionalMember {α : Type} (name : String) (json : α → Json) : Option α → Members
  | none => []
  | some a => [(name, json a)]

/-- A member for a list of strings, left out where it is empty. -/
def stringsMember (name : String) (xs : List String) : Members :=
  if xs.isEmpty then [] else [(name, .array (xs.map .string))]

end LspClient.Lsp
