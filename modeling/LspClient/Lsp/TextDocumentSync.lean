import LspClient.Lsp.Provider

/-!
# Synchronising documents

How a server wants to hear about changes to documents: a bare kind, which is a number, or options
that name a kind among other things.
-/

namespace LspClient.Lsp

open Json (Decoder Field)

/-- How changes to documents are sent to the server. -/
inductive TextDocumentSyncKind where
  /-- Not at all. -/
  | none
  /-- The whole document each time. -/
  | full
  /-- The whole document when it is opened, and then the changes. -/
  | incremental
  deriving DecidableEq, Repr

namespace TextDocumentSyncKind

/-- The number that stands for a kind. -/
def number : TextDocumentSyncKind → Nat
  | none => 0
  | full => 1
  | incremental => 2

/-- The kind that a number stands for. -/
def ofNumber (n : Nat) : Except Json.Mismatch TextDocumentSyncKind :=
  match n with
  | 0 => .ok none
  | 1 => .ok full
  | 2 => .ok incremental
  | n => .error (.unknownSyncKind n)

/-- Decodes an 8-bit number that stands for a kind. -/
def decode : Decoder TextDocumentSyncKind := fun v ↦
  match Json.decodeNat 256 "u8" v with
  | .error e => .error e
  | .ok n => ofNumber n

/-- The JSON form of a kind. -/
def json (kind : TextDocumentSyncKind) : Json :=
  .ofNat (.ofNat kind.number)

end TextDocumentSyncKind

/-- What a server wants to hear about documents. -/
structure TextDocumentSyncOptions where
  /-- Whether to tell it when a document is opened or closed. -/
  openClose : Option Bool := none
  change : Option TextDocumentSyncKind := none
  deriving DecidableEq, Repr

namespace TextDocumentSyncOptions

/-- The fields of the options. -/
def openCloseField : Field := ⟨"openClose", some "OpenClose"⟩

@[inherit_doc openCloseField]
def changeField : Field := ⟨"change", some "Change"⟩

/-- The value of `openClose`, which may be `null`. -/
def decodeOpenClose : Decoder (Option Bool) :=
  Json.decodeOption Json.decodeBool

/-- The value of `change`, which may be `null`. -/
def decodeChange : Decoder (Option TextDocumentSyncKind) :=
  Json.decodeOption TextDocumentSyncKind.decode

/-- How the options are decoded. -/
def record : Json.Record TextDocumentSyncOptions where
  name := "TextDocumentSyncOptions"
  layout := [(openCloseField, Json.check decodeOpenClose), (changeField, Json.check decodeChange)]
  build source := do
    let openClose ← source.field 0 openCloseField decodeOpenClose
    let change ← source.field 1 changeField decodeChange
    return { openClose := openClose.join, change := change.join }

/-- The JSON form of the options. -/
def json (options : TextDocumentSyncOptions) : Json :=
  .object (optionalMember "openClose" .bool options.openClose ++
    optionalMember "change" TextDocumentSyncKind.json options.change)

end TextDocumentSyncOptions

/-- A kind, or options. -/
inductive TextDocumentSync where
  | kind (kind : TextDocumentSyncKind)
  | options (options : TextDocumentSyncOptions)
  deriving DecidableEq, Repr

namespace TextDocumentSync

/-- Decodes a kind or options. -/
def decode : Decoder TextDocumentSync :=
  Json.decodeEither "TextDocumentSync" (fun v ↦ (TextDocumentSyncKind.decode v).map kind)
    (fun v ↦ (TextDocumentSyncOptions.record.decode v).map options)

/-- The JSON form of a kind or of options. -/
def json : TextDocumentSync → Json
  | kind k => k.json
  | options o => o.json

end TextDocumentSync

end LspClient.Lsp
