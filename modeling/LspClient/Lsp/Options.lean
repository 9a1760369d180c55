import LspClient.Lsp.Provider

/-!
# Options of features

The options that a server gives for four of its features. Every member may be missing, and `null`
stands for the value it has then.
-/

namespace LspClient.Lsp

open Json (Decoder Field)

/-- A flag that is off unless it is given. -/
def decodeFlag : Decoder Bool :=
  Json.orDefault false Json.decodeBool

/-- A text that is empty unless it is given. -/
def decodeText : Decoder String :=
  Json.orDefault "" Json.decodeString

/-- A list of strings that is empty unless it is given. -/
def decodeStrings : Decoder (List String) :=
  Json.orDefault [] (Json.decodeList Json.decodeString)

/-- The fields that options share. -/
def resolveProviderField : Field := ⟨"resolveProvider", some "ResolveProvider"⟩

@[inherit_doc resolveProviderField]
def triggerCharactersField : Field := ⟨"triggerCharacters", some "TriggerCharacters"⟩

/-- How a server completes code. -/
structure CompletionOptions where
  /-- Whether it can say more about a proposal. -/
  resolveProvider : Bool := false
  /-- The characters that start a completion by themselves. -/
  triggerCharacters : List String := []
  deriving DecidableEq, Repr

namespace CompletionOptions

/-- How the options are decoded. -/
def record : Json.Record CompletionOptions where
  name := "CompletionOptions"
  layout := [(resolveProviderField, Json.check decodeFlag),
    (triggerCharactersField, Json.check decodeStrings)]
  build source := do
    let resolveProvider ← source.field 0 resolveProviderField decodeFlag
    let triggerCharacters ← source.field 1 triggerCharactersField decodeStrings
    return { resolveProvider := resolveProvider.getD false
             triggerCharacters := triggerCharacters.getD [] }

/-- The JSON form of the options. -/
def json (options : CompletionOptions) : Json :=
  .object (("resolveProvider", .bool options.resolveProvider) ::
    stringsMember "triggerCharacters" options.triggerCharacters)

end CompletionOptions

/-- How a server helps with signatures. -/
structure SignatureHelpOptions where
  /-- The characters that start the help by themselves. -/
  triggerCharacters : List String := []
  deriving DecidableEq, Repr

namespace SignatureHelpOptions

/-- How the options are decoded. -/
def record : Json.Record SignatureHelpOptions where
  name := "SignatureHelpOptions"
  layout := [(triggerCharactersField, Json.check decodeStrings)]
  build source := do
    let triggerCharacters ← source.field 0 triggerCharactersField decodeStrings
    return { triggerCharacters := triggerCharacters.getD [] }

/-- The JSON form of the options. -/
def json (options : SignatureHelpOptions) : Json :=
  .object (stringsMember "triggerCharacters" options.triggerCharacters)

end SignatureHelpOptions

/-- How a server puts commands among the lines of code. -/
structure CodeLensOptions where
  /-- Whether it can say more about a command. -/
  resolveProvider : Bool := false
  deriving DecidableEq, Repr

namespace CodeLensOptions

/-- How the options are decoded. -/
def record : Json.Record CodeLensOptions where
  name := "CodeLensOptions"
  layout := [(resolveProviderField, Json.check decodeFlag)]
  build source := do
    let resolveProvider ← source.field 0 resolveProviderField decodeFlag
    return { resolveProvider := resolveProvider.getD false }

/-- The JSON form of the options. -/
def json (options : CodeLensOptions) : Json :=
  .object [("resolveProvider", .bool options.resolveProvider)]

end CodeLensOptions

/-- How a server formats code as it is typed. -/
structure DocumentOnTypeFormattingOptions where
  /-- The character that starts the formatting. -/
  firstTriggerCharacter : String := ""
  /-- Further such characters. -/
  moreTriggerCharacter : List String := []
  deriving DecidableEq, Repr

namespace DocumentOnTypeFormattingOptions

/-- The fields of the options. -/
def firstTriggerCharacterField : Field := ⟨"firstTriggerCharacter", some "FirstTriggerCharacter"⟩

@[inherit_doc firstTriggerCharacterField]
def moreTriggerCharacterField : Field := ⟨"moreTriggerCharacter", some "MoreTriggerCharacter"⟩

/-- How the options are decoded. -/
def record : Json.Record DocumentOnTypeFormattingOptions where
  name := "DocumentOnTypeFormattingOptions"
  layout := [(firstTriggerCharacterField, Json.check decodeText),
    (moreTriggerCharacterField, Json.check decodeStrings)]
  build source := do
    let firstTriggerCharacter ← source.field 0 firstTriggerCharacterField decodeText
    let moreTriggerCharacter ← source.field 1 moreTriggerCharacterField decodeStrings
    return { firstTriggerCharacter := firstTriggerCharacter.getD ""
             moreTriggerCharacter := moreTriggerCharacter.getD [] }

/-- The JSON form of the options. -/
def json (options : DocumentOnTypeFormattingOptions) : Json :=
  .object (("firstTriggerCharacter", .string options.firstTriggerCharacter) ::
    stringsMember "moreTriggerCharacter" options.moreTriggerCharacter)

end DocumentOnTypeFormattingOptions

end LspClient.Lsp
