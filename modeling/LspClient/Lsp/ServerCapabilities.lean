import LspClient.Lsp.Options
import LspClient.Lsp.TextDocumentSync

/-!
# What a server can do

The capabilities a server names in its answer to `initialize`. Each of the modelled ones may be
missing or `null`, so that the sparse answers of real servers decode, and the ones that are not
modelled are kept as they are.
-/

namespace LspClient.Lsp

open Json (Decoder Field Members)

/-- What a server can do. -/
structure ServerCapabilities where
  textDocumentSync : Option TextDocumentSync := none
  hoverProvider : Option Provider := none
  completionProvider : Option CompletionOptions := none
  signatureHelpProvider : Option SignatureHelpOptions := none
  definitionProvider : Option Provider := none
  referencesProvider : Option Provider := none
  documentHighlightProvider : Option Provider := none
  documentSymbolProvider : Option Provider := none
  workspaceSymbolProvider : Option Provider := none
  codeActionProvider : Option Provider := none
  codeLensProvider : Option CodeLensOptions := none
  documentFormattingProvider : Option Provider := none
  documentRangeFormattingProvider : Option Provider := none
  documentOnTypeFormattingProvider : Option DocumentOnTypeFormattingOptions := none
  renameProvider : Option Provider := none
  /-- Capabilities that are not modelled. -/
  other : Members := []

namespace ServerCapabilities

/-- The fields of the capabilities. -/
def textDocumentSyncField : Field := ⟨"textDocumentSync", some "TextDocumentSync"⟩

@[inherit_doc textDocumentSyncField]
def hoverProviderField : Field := ⟨"hoverProvider", some "HoverProvider"⟩

@[inherit_doc textDocumentSyncField]
def completionProviderField : Field := ⟨"completionProvider", some "CompletionProvider"⟩

@[inherit_doc textDocumentSyncField]
def signatureHelpProviderField : Field := ⟨"signatureHelpProvider", some "SignatureHelpProvider"⟩

@[inherit_doc textDocumentSyncField]
def definitionProviderField : Field := ⟨"definitionProvider", some "DefinitionProvider"⟩

@[inherit_doc textDocumentSyncField]
def referencesProviderField : Field := ⟨"referencesProvider", some "ReferencesProvider"⟩

@[inherit_doc textDocumentSyncField]
def documentHighlightProviderField : Field :=
  ⟨"documentHighlightProvider", some "DocumentHighlightProvider"⟩

@[inherit_doc textDocumentSyncField]
def documentSymbolProviderField : Field := ⟨"documentSymbolProvider", some "DocumentSymbolProvider"⟩

@[inherit_doc textDocumentSyncField]
def workspaceSymbolProviderField : Field :=
  ⟨"workspaceSymbolProvider", some "WorkspaceSymbolProvider"⟩

@[inherit_doc textDocumentSyncField]
def codeActionProviderField : Field := ⟨"codeActionProvider", some "CodeActionProvider"⟩

@[inherit_doc textDocumentSyncField]
def codeLensProviderField : Field := ⟨"codeLensProvider", some "CodeLensProvider"⟩

@[inherit_doc textDocumentSyncField]
def documentFormattingProviderField : Field :=
  ⟨"documentFormattingProvider", some "DocumentFormattingProvider"⟩

@[inherit_doc textDocumentSyncField]
def documentRangeFormattingProviderField : Field :=
  ⟨"documentRangeFormattingProvider", some "DocumentRangeFormattingProvider"⟩

@[inherit_doc textDocumentSyncField]
def documentOnTypeFormattingProviderField : Field :=
  ⟨"documentOnTypeFormattingProvider", some "DocumentOnTypeFormattingProvider"⟩

@[inherit_doc textDocumentSyncField]
def renameProviderField : Field := ⟨"renameProvider", some "RenameProvider"⟩

/-- A provider, or `null`. -/
def decodeProvider : Decoder (Option Provider) :=
  Json.decodeOption Provider.decode

/-- A way of synchronising documents, or `null`. -/
def decodeSync : Decoder (Option TextDocumentSync) :=
  Json.decodeOption TextDocumentSync.decode

/-- Options, or `null`. -/
def decodeOptions {α : Type} (record : Json.Record α) : Decoder (Option α) :=
  Json.decodeOption record.decode

/-- The modelled capabilities in their declared order. -/
def layout : List (Field × Decoder Unit) :=
  [(textDocumentSyncField, Json.check decodeSync),
    (hoverProviderField, Json.check decodeProvider),
    (completionProviderField, Json.check (decodeOptions CompletionOptions.record)),
    (signatureHelpProviderField, Json.check (decodeOptions SignatureHelpOptions.record)),
    (definitionProviderField, Json.check decodeProvider),
    (referencesProviderField, Json.check decodeProvider),
    (documentHighlightProviderField, Json.check decodeProvider),
    (documentSymbolProviderField, Json.check decodeProvider),
    (workspaceSymbolProviderField, Json.check decodeProvider),
    (codeActionProviderField, Json.check decodeProvider),
    (codeLensProviderField, Json.check (decodeOptions CodeLensOptions.record)),
    (documentFormattingProviderField, Json.check decodeProvider),
    (documentRangeFormattingProviderField, Json.check decodeProvider),
    (documentOnTypeFormattingProviderField,
      Json.check (decodeOptions DocumentOnTypeFormattingOptions.record)),
    (renameProviderField, Json.check decodeProvider)]

/-- How the modelled capabilities are decoded. -/
def record : Json.Record ServerCapabilities where
  name := "ServerCapabilities"
  layout := layout
  build source := do
    let provider (place : Nat) (f : Field) : Except Json.Mismatch (Option Provider) :=
      (source.field place f decodeProvider).map Option.join
    let textDocumentSync ← source.field 0 textDocumentSyncField decodeSync
    let hoverProvider ← provider 1 hoverProviderField
    let completionProvider ←
      source.field 2 completionProviderField (decodeOptions CompletionOptions.record)
    let signatureHelpProvider ←
      source.field 3 signatureHelpProviderField (decodeOptions SignatureHelpOptions.record)
    let definitionProvider ← provider 4 definitionProviderField
    let referencesProvider ← provider 5 referencesProviderField
    let documentHighlightProvider ← provider 6 documentHighlightProviderField
    let documentSymbolProvider ← provider 7 documentSymbolProviderField
    let workspaceSymbolProvider ← provider 8 workspaceSymbolProviderField
    let codeActionProvider ← provider 9 codeActionProviderField
    let codeLensProvider ←
      source.field 10 codeLensProviderField (decodeOptions CodeLensOptions.record)
    let documentFormattingProvider ← provider 11 documentFormattingProviderField
    let documentRangeFormattingProvider ← provider 12 documentRangeFormattingProviderField
    let documentOnTypeFormattingProvider ←
      source.field 13 documentOnTypeFormattingProviderField
        (decodeOptions DocumentOnTypeFormattingOptions.record)
    let renameProvider ← provider 14 renameProviderField
    return {
      textDocumentSync := textDocumentSync.join
      hoverProvider
      completionProvider := completionProvider.join
      signatureHelpProvider := signatureHelpProvider.join
      definitionProvider
      referencesProvider
      documentHighlightProvider
      documentSymbolProvider
      workspaceSymbolProvider
      codeActionProvider
      codeLensProvider := codeLensProvider.join
      documentFormattingProvider
      documentRangeFormattingProvider
      documentOnTypeFormattingProvider := documentOnTypeFormattingProvider.join
      renameProvider }

/-- Decodes capabilities from an object. -/
def decode : Decoder ServerCapabilities := fun v ↦
  (record.decodeOpen v).map fun (capabilities, other) ↦ { capabilities with other }

/-- The members for the modelled capabilities that a server has. -/
def modelledMembers (c : ServerCapabilities) : Members :=
  optionalMember "textDocumentSync" TextDocumentSync.json c.textDocumentSync ++
  optionalMember "hoverProvider" Provider.json c.hoverProvider ++
  optionalMember "completionProvider" CompletionOptions.json c.completionProvider ++
  optionalMember "signatureHelpProvider" SignatureHelpOptions.json c.signatureHelpProvider ++
  optionalMember "definitionProvider" Provider.json c.definitionProvider ++
  optionalMember "referencesProvider" Provider.json c.referencesProvider ++
  optionalMember "documentHighlightProvider" Provider.json c.documentHighlightProvider ++
  optionalMember "documentSymbolProvider" Provider.json c.documentSymbolProvider ++
  optionalMember "workspaceSymbolProvider" Provider.json c.workspaceSymbolProvider ++
  optionalMember "codeActionProvider" Provider.json c.codeActionProvider ++
  optionalMember "codeLensProvider" CodeLensOptions.json c.codeLensProvider ++
  optionalMember "documentFormattingProvider" Provider.json c.documentFormattingProvider ++
  optionalMember "documentRangeFormattingProvider" Provider.json
    c.documentRangeFormattingProvider ++
  optionalMember "documentOnTypeFormattingProvider" DocumentOnTypeFormattingOptions.json
    c.documentOnTypeFormattingProvider ++
  optionalMember "renameProvider" Provider.json c.renameProvider

/-- The JSON form of capabilities: the modelled ones, then the others. -/
def json (c : ServerCapabilities) : Json :=
  .object (c.modelledMembers ++ c.other)

/-- Whether a feature is supported. -/
def provides (provider : Option Provider) : Bool :=
  provider.any Provider.isEnabled

/-- Whether the server shows information about what the cursor is on. -/
def providesHover (c : ServerCapabilities) : Bool :=
  provides c.hoverProvider

/-- Whether the server finds definitions. -/
def providesDefinition (c : ServerCapabilities) : Bool :=
  provides c.definitionProvider

/-- Whether the server finds references. -/
def providesReferences (c : ServerCapabilities) : Bool :=
  provides c.referencesProvider

/-- Whether the server lists the symbols of a document. -/
def providesDocumentSymbols (c : ServerCapabilities) : Bool :=
  provides c.documentSymbolProvider

/-- Whether the server renames symbols. -/
def providesRename (c : ServerCapabilities) : Bool :=
  provides c.renameProvider

end ServerCapabilities

end LspClient.Lsp
