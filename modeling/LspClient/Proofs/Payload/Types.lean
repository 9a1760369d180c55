import LspClient.Proofs.Payload.Handshake

/-!
# Payloads

The thirteen types of payloads with their codecs, all of them lawful (`PayloadType.exists_lawful`).
So what a payload is written as has no name twice, is spelled in camelCase, and is decoded as that
payload again, exactly if what is kept in it is plain (`PayloadType.decode_sorted_json`). Only a
value that was put together by hand can be decoded as a payload that keeps anything else. And
whether a member is spelled in camelCase or with a capital first letter makes no difference, unless
it is given in both ways (`PayloadType.decode_respelled`).
-/

namespace LspClient.Lsp

open Json (Decoder Respects Shape)

/-- The types of payloads. -/
inductive PayloadType where
  | initializeParams
  | clientCapabilities
  | initializeResult
  | initializeError
  | serverCapabilities
  | provider
  | textDocumentSync
  | textDocumentSyncKind
  | textDocumentSyncOptions
  | completionOptions
  | signatureHelpOptions
  | codeLensOptions
  | documentOnTypeFormattingOptions
  deriving DecidableEq, Repr

namespace PayloadType

/-- The payloads of a type. -/
@[reducible]
def Value : PayloadType → Type
  | initializeParams => InitializeParams
  | clientCapabilities => ClientCapabilities
  | initializeResult => InitializeResult
  | initializeError => InitializeError
  | serverCapabilities => ServerCapabilities
  | provider => Provider
  | textDocumentSync => TextDocumentSync
  | textDocumentSyncKind => TextDocumentSyncKind
  | textDocumentSyncOptions => TextDocumentSyncOptions
  | completionOptions => CompletionOptions
  | signatureHelpOptions => SignatureHelpOptions
  | codeLensOptions => CodeLensOptions
  | documentOnTypeFormattingOptions => DocumentOnTypeFormattingOptions

/-- The codec of a type. -/
def codec : (T : PayloadType) → Codec T.Value
  | initializeParams => InitializeParams.codec
  | clientCapabilities => ClientCapabilities.codec
  | initializeResult => InitializeResult.codec
  | initializeError => InitializeError.codec
  | serverCapabilities => ServerCapabilities.codec
  | provider => Provider.codec
  | textDocumentSync => TextDocumentSync.codec
  | textDocumentSyncKind => TextDocumentSyncKind.codec
  | textDocumentSyncOptions => TextDocumentSyncOptions.codec
  | completionOptions => CompletionOptions.codec
  | signatureHelpOptions => SignatureHelpOptions.codec
  | codeLensOptions => CodeLensOptions.codec
  | documentOnTypeFormattingOptions => DocumentOnTypeFormattingOptions.codec

variable (T : PayloadType)

/-- Decodes a payload of a type. -/
def decode : Decoder T.Value :=
  T.codec.decode

/-- The JSON form of a payload. -/
def json (x : T.Value) : Json :=
  T.codec.json x

/-- The value of the JSON form of the payload that a value is decoded as. -/
def recode : Decoder Json := fun v ↦
  (T.decode v).map fun x ↦ (T.json x).sorted

/-- A value is an object, or has the scalar form of the type. -/
def HasForm : PayloadType → Json → Prop
  | provider, .bool _ => True
  | textDocumentSync, .number _ => True
  | textDocumentSyncKind, v => ∃ n, v = .number n
  | _, .object _ => True
  | _, _ => False

theorem hasForm_json (x : T.Value) : T.HasForm (T.json x) := by
  cases T with
  | provider => cases x <;> trivial
  | textDocumentSync => cases x <;> trivial
  | textDocumentSyncKind => exact ⟨_, rfl⟩
  | initializeParams | clientCapabilities | initializeResult | initializeError
  | serverCapabilities | textDocumentSyncOptions | completionOptions | signatureHelpOptions
  | codeLensOptions | documentOnTypeFormattingOptions => trivial

/-- Every codec is lawful. -/
theorem exists_lawful : ∃ sound, T.codec.Lawful sound := by
  cases T with
  | initializeParams => exact ⟨_, InitializeParams.lawful⟩
  | clientCapabilities => exact ⟨_, ClientCapabilities.lawful⟩
  | initializeResult => exact ⟨_, InitializeResult.lawful⟩
  | initializeError => exact ⟨_, InitializeError.lawful⟩
  | serverCapabilities => exact ⟨_, ServerCapabilities.lawful⟩
  | provider => exact ⟨_, Provider.lawful⟩
  | textDocumentSync => exact ⟨_, TextDocumentSync.lawful⟩
  | textDocumentSyncKind => exact ⟨_, TextDocumentSyncKind.lawful⟩
  | textDocumentSyncOptions => exact ⟨_, TextDocumentSyncOptions.lawful⟩
  | completionOptions => exact ⟨_, CompletionOptions.lawful⟩
  | signatureHelpOptions => exact ⟨_, SignatureHelpOptions.lawful⟩
  | codeLensOptions => exact ⟨_, CodeLensOptions.lawful⟩
  | documentOnTypeFormattingOptions => exact ⟨_, DocumentOnTypeFormattingOptions.lawful⟩

/-- All payloads but the params are modelled in both spellings. -/
theorem respects (hT : T ≠ initializeParams) : Respects T.codec.decode T.codec.shape := by
  cases T with
  | initializeParams => exact absurd rfl hT
  | clientCapabilities => exact ClientCapabilities.respects
  | initializeResult => exact InitializeResult.respects
  | initializeError => exact InitializeError.respects
  | serverCapabilities => exact ServerCapabilities.respects
  | provider => exact Json.respects_free _
  | textDocumentSync => exact TextDocumentSync.respects
  | textDocumentSyncKind => exact Json.respects_free _
  | textDocumentSyncOptions => exact TextDocumentSyncOptions.respects
  | completionOptions => exact CompletionOptions.respects
  | signatureHelpOptions => exact SignatureHelpOptions.respects
  | codeLensOptions => exact CodeLensOptions.respects
  | documentOnTypeFormattingOptions => exact DocumentOnTypeFormattingOptions.respects

variable {T}

/-! ### Decoding what is written -/

/-- **A payload is decoded from what it is written as.** If a value is decoded as a payload, then
that is written as an object, or in the scalar form of its type, in which no name stands twice and
every modelled member is spelled in camelCase; and what is written is decoded as that payload
again, exactly if no object that is kept in it begins with the reserved name. So it is whenever the
value was read from a text. -/
theorem decode_sorted_json {v : Json} {x : T.Value} (hv : v.IsCanonical) (h : T.decode v = .ok x) :
    T.HasForm (T.json x) ∧ (T.json x).HasUniqueNames ∧ T.codec.shape.IsCamelCase (T.json x) ∧
    (T.decode (T.json x).sorted = .ok x ↔ T.codec.KeepsPlain x) ∧
    (T.codec.KeepsPlain x → T.recode (T.json x).sorted = .ok (T.json x).sorted) ∧
    ∀ text, Json.read text = .ok v → T.codec.KeepsPlain x := by
  obtain ⟨sound, hlawful⟩ := T.exists_lawful
  have hsound : sound x := hlawful.sound_of_decode hv h
  have hround : T.decode (T.json x).sorted = .ok x ↔ T.codec.KeepsPlain x :=
    hlawful.roundTrip hsound
  obtain ⟨hunique, hcamelCase⟩ := hlawful.isTidy hsound
  refine ⟨T.hasForm_json x, hunique, hcamelCase, hround, fun hplain ↦ ?_, fun text hread ↦ ?_⟩
  · rw [recode, hround.2 hplain]
    rfl
  · exact hlawful.keepsPlain (Json.embedsNothing_of_read hread) h

/-- An answer of a server that spells its members with a capital first letter. -/
def capitalAnswer : String :=
  "\x7b\"Capabilities\":\x7b\"RenameProvider\":\x7b\"z\":1\x7d\x7d\x7d"

/-- Such an answer is written in camelCase and decoded again. -/
theorem decode_sorted_json_capitalAnswer : ∃ v x, Json.read capitalAnswer = .ok v ∧
    initializeResult.decode v = .ok x ∧ (initializeResult.json x).HasUniqueNames ∧
    initializeResult.codec.shape.IsCamelCase (initializeResult.json x) ∧
    initializeResult.decode (initializeResult.json x).sorted = .ok x := by
  have hdecodes : ((Json.read capitalAnswer).toOption.bind fun v ↦
      (initializeResult.decode v).toOption).isSome = true := by decide +kernel
  obtain ⟨x, hx⟩ := Option.isSome_iff_exists.1 hdecodes
  obtain ⟨v, hv, hx⟩ := Option.bind_eq_some_iff.1 hx
  have hread : Json.read capitalAnswer = .ok v := Json.toOption_eq_some_iff.1 hv
  have hdecode : initializeResult.decode v = .ok x := Json.toOption_eq_some_iff.1 hx
  obtain ⟨-, hunique, hcamelCase, hround, -, hplain⟩ :=
    decode_sorted_json (Json.isCanonical_of_read hread) hdecode
  exact ⟨v, x, hread, hdecode, hunique, hcamelCase, hround.2 (hplain _ hread)⟩

/-- The text that stands for an object which begins with the reserved name, though the name does not
come first in it. -/
def lateReserved : String :=
  "\x7b\"z\":1,\"$serde_json::private::RawValue\":\"5\"\x7d"

/-- A client's capabilities that embed such a text are decoded, but not again from what they are
written as. The value that is decoded is one that no text is read as, because reading a text puts
what is embedded in its place. What is written is read from a text. -/
theorem decode_sorted_json_lateReserved : ¬∀ (T : PayloadType) (v : Json) (x : T.Value),
    v.IsCanonical → T.decode v = .ok x → T.decode (T.json x).sorted = .ok x := by
  intro h
  have hrefused : ((Json.read lateReserved).toOption.any fun w ↦
      (Json.decodeValue Json.aloneInPart w).toOption.isNone) = true := by decide +kernel
  obtain ⟨w, hread, hnone⟩ := (Option.any_eq_true _ _).1 hrefused
  replace hread : Json.read lateReserved = .ok w := Json.toOption_eq_some_iff.1 hread
  have hw : ¬w.IsPlain := by
    intro hplain
    rw [Json.decodeValue_eq_self_iff.2 hplain] at hnone
    cases hnone
  let reserved : Json := .object [(.ofList Json.embeddedName, .string lateReserved)]
  let v : Json := .object [("foo", reserved)]
  have hv : v.IsCanonical := by
    refine Json.isCanonical_object.2 ⟨List.pairwise_singleton _ _, ?_⟩
    refine List.forall_mem_singleton.2 (Json.isCanonical_object.2 ⟨List.pairwise_singleton _ _, ?_⟩)
    exact List.forall_mem_singleton.2 trivial
  have hdecode : clientCapabilities.decode v = .ok ⟨[("foo", w)]⟩ := by
    refine ClientCapabilities.decode_eq_ok_iff.2 ?_
    refine ClientCapabilities.record_fields.asks.decodeOpen_object_eq_ok_iff.2 ⟨rfl, ?_⟩
    refine Json.decodeMembers_cons_eq_ok.2 ⟨w, [], ?_, rfl, rfl⟩
    rw [Json.decodeValue_embedded String.toList_ofList, Json.decodeEmbedded, hread]
    rfl
  have hsound := ClientCapabilities.lawful.sound_of_decode hv hdecode
  have hplain := (ClientCapabilities.lawful.roundTrip hsound).1 (h _ v _ hv hdecode)
  exact hw (hplain _ List.mem_cons_self _ List.mem_cons_self)

/-- The value that these capabilities are written as, read from a text, is not decoded. -/
example :
    ((Json.read ("\x7b\"foo\":" ++ lateReserved ++ "\x7d")).toOption.map fun v ↦
      (v.text, (clientCapabilities.decode v).toOption.isSome)) =
    some ("\x7b\"foo\":\x7b\"$serde_json::private::RawValue\":\"5\",\"z\":1\x7d\x7d", false) := by
  decide +kernel

/-! ### Spellings -/

/-- **Both spellings mean the same.** A value in which any modelled members are spelled otherwise,
here or in the modelled objects inside it, is decoded as the same payload or not at all, as the
value was; and a value in which a modelled object holds both spellings of a member is not
decoded. -/
theorem decode_respelled (hT : T ≠ initializeParams) {v : Json} (hv : v.IsCanonical) :
    (∀ v' : Json, v'.IsCanonical → T.codec.shape.Respells v v' →
      ∀ x, T.decode v = .ok x ↔ T.decode v' = .ok x) ∧
    (T.codec.shape.HoldsBoth v → ∀ x, T.decode v ≠ .ok x) := by
  obtain ⟨hrespells, hholdsBoth⟩ := T.respects hT
  refine ⟨fun v' hv' hr x ↦ ?_, fun hboth x hx ↦ ?_⟩
  · rw [← Json.toOption_eq_some_iff, ← Json.toOption_eq_some_iff, decode,
      hrespells v v' hv hv' hr]
  · have hnone := hholdsBoth v hboth
    rw [show T.codec.decode v = .ok x from hx] at hnone
    cases hnone

/-- An answer in camelCase. -/
def camelAnswer : Json :=
  .object [("aside", .null), ("capabilities", .object [("renameProvider", .bool true)])]

/-- The same answer with capital first letters, which puts its members into another order. -/
def pascalAnswer : Json :=
  .object [("Capabilities", .object [("RenameProvider", .bool true)]), ("aside", .null)]

/-- A hint that is given in both spellings. -/
def twiceRetry : Json :=
  .object [("Retry", .bool true), ("retry", .bool true)]

theorem respells_camelAnswer :
    initializeResult.codec.shape.Respells camelAnswer pascalAnswer := by
  have hrename : ServerCapabilities.codec.shape.Respells
      (.object [("renameProvider", .bool true)]) (.object [("RenameProvider", .bool true)]) := by
    refine Shape.respells_object.2 (.inr ⟨_, _, _, rfl, rfl, .cons ?_ .nil, .refl _⟩)
    refine Shape.respellsMember_iff.2 (.inr ⟨(ServerCapabilities.renameProviderField, .free), ?_,
      .inl rfl, .inr (by decide), .refl _ _⟩)
    simp [ServerCapabilities.fields]
  refine Shape.respells_object.2 (.inr ⟨_, _, _, rfl, rfl, .cons ?_ (.cons ?_ .nil), .swap _ _ []⟩)
  · exact Shape.respellsMember_iff.2 (.inl rfl)
  · exact Shape.respellsMember_iff.2 (.inr ⟨_, List.mem_cons_self, .inl rfl,
      .inr (by decide), hrename⟩)

/-- The same is decoded from both answers, and a hint that is given twice is refused. -/
theorem decode_respelled_camelAnswer :
    (∀ x, initializeResult.decode camelAnswer = .ok x ↔
      initializeResult.decode pascalAnswer = .ok x) ∧
    (∃ x : InitializeResult, initializeResult.decode pascalAnswer = .ok x ∧
      x.capabilities.providesRename = true) ∧
    ∀ x, initializeError.decode twiceRetry ≠ .ok x := by
  have hone : ∀ name b, Json.IsCanonical (.object [(name, .bool b)]) := fun name b ↦
    Json.isCanonical_object.2 ⟨List.pairwise_singleton _ _, List.forall_mem_singleton.2 trivial⟩
  have hcamel : camelAnswer.IsCanonical := Json.isCanonical_object.2 ⟨by decide,
    List.forall_mem_cons.2 ⟨trivial, List.forall_mem_singleton.2 (hone _ _)⟩⟩
  have hpascal : pascalAnswer.IsCanonical := Json.isCanonical_object.2 ⟨by decide,
    List.forall_mem_cons.2 ⟨hone _ _, List.forall_mem_singleton.2 trivial⟩⟩
  have htwice : twiceRetry.IsCanonical := Json.isCanonical_object.2 ⟨by decide,
    List.forall_mem_cons.2 ⟨trivial, List.forall_mem_singleton.2 trivial⟩⟩
  have hboth : initializeError.codec.shape.HoldsBoth twiceRetry := by
    refine ⟨_, rfl, Shape.holdsBothAmong_iff.2 ⟨_, List.mem_cons_self, .inl ⟨?_, ?_⟩⟩⟩
    · decide
    · decide
  have hrenames : ((initializeResult.decode pascalAnswer).toOption.any
      fun x : InitializeResult ↦ x.capabilities.providesRename) = true := by decide +kernel
  refine ⟨(decode_respelled (by decide) hcamel).1 _ hpascal respells_camelAnswer, ?_,
    (decode_respelled (by decide) htwice).2 hboth⟩
  obtain ⟨x, hx, hrename⟩ := (Option.any_eq_true _ _).1 hrenames
  exact ⟨x, Json.toOption_eq_some_iff.1 hx, hrename⟩

end PayloadType

end LspClient.Lsp
