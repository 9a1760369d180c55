import LspClient.Proofs.Payload.Options

/-!
# Codecs of the handshake

The codecs of capabilities, of the params of `initialize` and of its answer, each with its laws and
its shape. Capabilities are built exactly from what their fields are given
(`ServerCapabilities.build_eq_ok_iff`), and everything about them is derived from that.
-/

namespace LspClient.Lsp

open Json (Decoder Field IsCanonical Members Respects Shape Source)

namespace ServerCapabilities

/-! ### The fields of capabilities -/

/-- The modelled members of capabilities. -/
def fields : List (Field × Shape) :=
  [(textDocumentSyncField, TextDocumentSync.codec.shape),
    (hoverProviderField, .free),
    (completionProviderField, CompletionOptions.codec.shape),
    (signatureHelpProviderField, SignatureHelpOptions.codec.shape),
    (definitionProviderField, .free),
    (referencesProviderField, .free),
    (documentHighlightProviderField, .free),
    (documentSymbolProviderField, .free),
    (workspaceSymbolProviderField, .free),
    (codeActionProviderField, .free),
    (codeLensProviderField, CodeLensOptions.codec.shape),
    (documentFormattingProviderField, .free),
    (documentRangeFormattingProviderField, .free),
    (documentOnTypeFormattingProviderField, DocumentOnTypeFormattingOptions.codec.shape),
    (renameProviderField, .free)]

/-- The capabilities that are providers. -/
def providers (c : ServerCapabilities) : List (Option Provider) :=
  [c.hoverProvider, c.definitionProvider, c.referencesProvider, c.documentHighlightProvider,
    c.documentSymbolProvider, c.workspaceSymbolProvider, c.codeActionProvider,
    c.documentFormattingProvider, c.documentRangeFormattingProvider, c.renameProvider]

/-- What is kept of capabilities are the options of providers and the other members. -/
def kept (c : ServerCapabilities) : List Members :=
  (c.providers.flatMap fun o ↦ o.toList.flatMap Provider.kept) ++ [c.other]

/-- Capabilities have modelled members and others. -/
def codec : Codec ServerCapabilities :=
  ⟨decode, json, .object fields, kept⟩

theorem codec_decode : codec.decode = decode := rfl

theorem codec_json : codec.json = json := rfl

variable {s s' : Source} {c : ServerCapabilities} {ms : Members}

/-- **Capabilities are built exactly from what their fields are given.** -/
theorem build_eq_ok_iff : record.build s = .ok c ↔
    (s.field 0 textDocumentSyncField decodeSync).map Option.join = .ok c.textDocumentSync ∧
    (s.field 1 hoverProviderField decodeProvider).map Option.join = .ok c.hoverProvider ∧
    (s.field 2 completionProviderField (decodeOptions CompletionOptions.record)).map
      Option.join = .ok c.completionProvider ∧
    (s.field 3 signatureHelpProviderField (decodeOptions SignatureHelpOptions.record)).map
      Option.join = .ok c.signatureHelpProvider ∧
    (s.field 4 definitionProviderField decodeProvider).map Option.join =
      .ok c.definitionProvider ∧
    (s.field 5 referencesProviderField decodeProvider).map Option.join =
      .ok c.referencesProvider ∧
    (s.field 6 documentHighlightProviderField decodeProvider).map Option.join =
      .ok c.documentHighlightProvider ∧
    (s.field 7 documentSymbolProviderField decodeProvider).map Option.join =
      .ok c.documentSymbolProvider ∧
    (s.field 8 workspaceSymbolProviderField decodeProvider).map Option.join =
      .ok c.workspaceSymbolProvider ∧
    (s.field 9 codeActionProviderField decodeProvider).map Option.join =
      .ok c.codeActionProvider ∧
    (s.field 10 codeLensProviderField (decodeOptions CodeLensOptions.record)).map Option.join =
      .ok c.codeLensProvider ∧
    (s.field 11 documentFormattingProviderField decodeProvider).map Option.join =
      .ok c.documentFormattingProvider ∧
    (s.field 12 documentRangeFormattingProviderField decodeProvider).map Option.join =
      .ok c.documentRangeFormattingProvider ∧
    (s.field 13 documentOnTypeFormattingProviderField
      (decodeOptions DocumentOnTypeFormattingOptions.record)).map Option.join =
        .ok c.documentOnTypeFormattingProvider ∧
    (s.field 14 renameProviderField decodeProvider).map Option.join = .ok c.renameProvider ∧
    c.other = [] := by
  constructor
  · intro h
    obtain ⟨sync, h0, h⟩ := Json.exists_of_bind_eq_ok h
    obtain ⟨hover, h1, h⟩ := Json.exists_of_bind_eq_ok h
    obtain ⟨completion, h2, h⟩ := Json.exists_of_bind_eq_ok h
    obtain ⟨signature, h3, h⟩ := Json.exists_of_bind_eq_ok h
    obtain ⟨definition, h4, h⟩ := Json.exists_of_bind_eq_ok h
    obtain ⟨references, h5, h⟩ := Json.exists_of_bind_eq_ok h
    obtain ⟨highlight, h6, h⟩ := Json.exists_of_bind_eq_ok h
    obtain ⟨symbols, h7, h⟩ := Json.exists_of_bind_eq_ok h
    obtain ⟨workspace, h8, h⟩ := Json.exists_of_bind_eq_ok h
    obtain ⟨action, h9, h⟩ := Json.exists_of_bind_eq_ok h
    obtain ⟨lens, h10, h⟩ := Json.exists_of_bind_eq_ok h
    obtain ⟨formatting, h11, h⟩ := Json.exists_of_bind_eq_ok h
    obtain ⟨range, h12, h⟩ := Json.exists_of_bind_eq_ok h
    obtain ⟨onType, h13, h⟩ := Json.exists_of_bind_eq_ok h
    obtain ⟨rename, h14, h⟩ := Json.exists_of_bind_eq_ok h
    cases h
    have hjoin : ∀ {β : Type} {x : Except Json.Mismatch (Option (Option β))} {o},
        x = .ok o → x.map Option.join = .ok o.join := fun h ↦ h ▸ rfl
    exact ⟨hjoin h0, h1, hjoin h2, hjoin h3, h4, h5, h6, h7, h8, h9, hjoin h10, h11, h12,
      hjoin h13, h14, rfl⟩
  · rintro ⟨h0, h1, h2, h3, h4, h5, h6, h7, h8, h9, h10, h11, h12, h13, h14, hother⟩
    obtain ⟨sync, f0, hsync⟩ := Json.map_eq_ok_iff.1 h0
    obtain ⟨completion, f2, hcompletion⟩ := Json.map_eq_ok_iff.1 h2
    obtain ⟨signature, f3, hsignature⟩ := Json.map_eq_ok_iff.1 h3
    obtain ⟨lens, f10, hlens⟩ := Json.map_eq_ok_iff.1 h10
    obtain ⟨onType, f13, honType⟩ := Json.map_eq_ok_iff.1 h13
    obtain ⟨_, _, _, _, _, _, _, _, _, _, _, _, _, _, _, _⟩ := c
    subst hsync hcompletion hsignature hlens honType hother
    simp only [record, f0, h1, f2, f3, h4, h5, h6, h7, h8, h9, f10, h11, h12, f13, h14]
    rfl

/-- Capabilities are built alike from two sources that give a field the same if its decoder has some
property, and all decoders of capabilities have it. -/
theorem toOption_build_congr {P : ∀ {β : Type}, Decoder (Option β) → Shape → Prop}
    (h : ∀ {β : Type} {decode : Decoder (Option β)} {f : Field} {shape : Shape}, P decode shape →
      (f, shape) ∈ fields → ∀ place, ((s.field place f decode).map Option.join).toOption =
        ((s'.field place f decode).map Option.join).toOption)
    (hsync : P decodeSync TextDocumentSync.codec.shape) (hprovider : P decodeProvider .free)
    (hcompletion : P (decodeOptions CompletionOptions.record) CompletionOptions.codec.shape)
    (hsignature : P (decodeOptions SignatureHelpOptions.record) SignatureHelpOptions.codec.shape)
    (hlens : P (decodeOptions CodeLensOptions.record) CodeLensOptions.codec.shape)
    (honType : P (decodeOptions DocumentOnTypeFormattingOptions.record)
      DocumentOnTypeFormattingOptions.codec.shape) :
    (record.build s).toOption = (record.build s').toOption := by
  refine Json.toOption_congr fun c ↦ ?_
  have agree : ∀ {β : Type} (place : Nat) {f : Field} {shape : Shape}
      {decode : Decoder (Option β)} {o}, P decode shape → (f, shape) ∈ fields →
      ((s.field place f decode).map Option.join = .ok o ↔
        (s'.field place f decode).map Option.join = .ok o) := by
    intro β place f shape decode o hdecode hf
    rw [← Json.toOption_eq_some_iff, ← Json.toOption_eq_some_iff, h hdecode hf place]
  have provider : ∀ (place : Nat) {f : Field} {o}, (f, Shape.free) ∈ fields →
      ((s.field place f decodeProvider).map Option.join = .ok o ↔
        (s'.field place f decodeProvider).map Option.join = .ok o) :=
    fun place _ _ hf ↦ agree place hprovider hf
  rw [build_eq_ok_iff, build_eq_ok_iff]
  exact and_congr (agree 0 hsync (by simp [fields])) <|
    and_congr (provider 1 (by simp [fields])) <|
    and_congr (agree 2 hcompletion (by simp [fields])) <|
    and_congr (agree 3 hsignature (by simp [fields])) <|
    and_congr (provider 4 (by simp [fields])) <| and_congr (provider 5 (by simp [fields])) <|
    and_congr (provider 6 (by simp [fields])) <| and_congr (provider 7 (by simp [fields])) <|
    and_congr (provider 8 (by simp [fields])) <| and_congr (provider 9 (by simp [fields])) <|
    and_congr (agree 10 hlens (by simp [fields])) <|
    and_congr (provider 11 (by simp [fields])) <| and_congr (provider 12 (by simp [fields])) <|
    and_congr (agree 13 honType (by simp [fields])) <|
    and_congr (provider 14 (by simp [fields])) Iff.rfl

/-- Optional options are decoded alike in either spelling, as the options are. -/
theorem respects_options {α : Type} {record : Json.Record α} {shape : Shape}
    (h : Respects record.decode shape) : Respects (decodeOptions record) shape :=
  h.decodeOption

theorem respects_sync : Respects decodeSync TextDocumentSync.codec.shape :=
  TextDocumentSync.respects.decodeOption

/-- The fields of the capabilities are those that their record reads. -/
theorem record_fields : record.Fields fields where
  capitalised := {
    nodup := by decide
    capital :=
      have named := Field.capital_ofList
      ⟨named _ _ _, named _ _ _, named _ _ _, named _ _ _, named _ _ _, named _ _ _, named _ _ _,
        named _ _ _, named _ _ _, named _ _ _, named _ _ _, named _ _ _, named _ _ _, named _ _ _,
        named _ _ _⟩ }
  layout :=
    have provider : ∀ f : Field, (f, Json.check decodeProvider).1 = (f, Shape.free).1 ∧
        Respects (Json.check decodeProvider) .free := fun _ ↦ ⟨rfl, Json.respects_free _⟩
    .cons ⟨rfl, respects_sync.check⟩ <| .cons (provider _) <|
      .cons ⟨rfl, (respects_options CompletionOptions.respects).check⟩ <|
      .cons ⟨rfl, (respects_options SignatureHelpOptions.respects).check⟩ <|
      .cons (provider _) <| .cons (provider _) <| .cons (provider _) <| .cons (provider _) <|
      .cons (provider _) <| .cons (provider _) <|
      .cons ⟨rfl, (respects_options CodeLensOptions.respects).check⟩ <|
      .cons (provider _) <| .cons (provider _) <|
      .cons ⟨rfl, (respects_options DocumentOnTypeFormattingOptions.respects).check⟩ <|
      .cons (provider _) .nil
  asks ms c h := by
    obtain ⟨h0, h1, h2, h3, h4, h5, h6, h7, h8, h9, h10, h11, h12, h13, h14, -⟩ :=
      build_eq_ok_iff.1 h
    have asked : ∀ {β γ : Type} {place : Nat} {f : Field} {decode : Decoder β}
        {g : Option β → γ} {o}, ((Source.members ms).field place f decode).map g = .ok o →
        ∃ u, (Source.members ms).field 0 f (Json.check decode) = .ok u := fun h ↦ by
      obtain ⟨u, hu, -⟩ := Json.map_eq_ok_iff.1 h
      exact Json.exists_field_check hu
    simp only [record, layout, List.forall_mem_cons]
    exact ⟨asked h0, asked h1, asked h2, asked h3, asked h4, asked h5, asked h6, asked h7,
      asked h8, asked h9, asked h10, asked h11, asked h12, asked h13, asked h14,
      List.forall_mem_nil _⟩
  build _ _ h :=
    toOption_build_congr (P := Respects)
      (fun hdecode hf place ↦ by
        rw [Json.toOption_map, Json.toOption_map, h _ hf _ hdecode place])
      respects_sync (Json.respects_free _) (respects_options CompletionOptions.respects)
      (respects_options SignatureHelpOptions.respects) (respects_options CodeLensOptions.respects)
      (respects_options DocumentOnTypeFormattingOptions.respects)

/-- What a server can do is decoded alike in either spelling. -/
theorem respects : Respects codec.decode codec.shape :=
  record_fields.respects_decodeOpen.map _

/-! ### What capabilities are written as -/

/-- The values that are written. -/
def entries (c : ServerCapabilities) : List (Field × Option Json) :=
  [(textDocumentSyncField, c.textDocumentSync.map TextDocumentSync.json),
    (hoverProviderField, c.hoverProvider.map Provider.json),
    (completionProviderField, c.completionProvider.map CompletionOptions.json),
    (signatureHelpProviderField, c.signatureHelpProvider.map SignatureHelpOptions.json),
    (definitionProviderField, c.definitionProvider.map Provider.json),
    (referencesProviderField, c.referencesProvider.map Provider.json),
    (documentHighlightProviderField, c.documentHighlightProvider.map Provider.json),
    (documentSymbolProviderField, c.documentSymbolProvider.map Provider.json),
    (workspaceSymbolProviderField, c.workspaceSymbolProvider.map Provider.json),
    (codeActionProviderField, c.codeActionProvider.map Provider.json),
    (codeLensProviderField, c.codeLensProvider.map CodeLensOptions.json),
    (documentFormattingProviderField, c.documentFormattingProvider.map Provider.json),
    (documentRangeFormattingProviderField, c.documentRangeFormattingProvider.map Provider.json),
    (documentOnTypeFormattingProviderField,
      c.documentOnTypeFormattingProvider.map DocumentOnTypeFormattingOptions.json),
    (renameProviderField, c.renameProvider.map Provider.json)]

/-- Capabilities are written as the values of their fields and the other members. -/
theorem json_eq (c : ServerCapabilities) : c.json = .object (Json.written c.entries c.other) := by
  rw [json, modelledMembers, entries]
  simp only [optionalMember_eq, Json.written_cons, Json.written_nil, List.append_assoc]
  rfl

/-- What holds of capabilities that are decoded: what is kept is canonical, and the other members
are not modelled. -/
structure IsSound (c : ServerCapabilities) : Prop where
  providers : ∀ o ∈ c.providers, ∀ p ∈ o, p.json.IsCanonical
  canonical : IsCanonical (.object c.other)
  unspelled : ∀ m ∈ c.other, ∀ e ∈ fields, e.1.spells m.1 = false

/-- The providers that capabilities are built with are decoded from values in the source. -/
theorem exists_of_build (h : record.build s = .ok c) :
    ∀ o ∈ c.providers, ∀ p ∈ o, ∃ v ∈ s.values, Provider.decode v = .ok p := by
  obtain ⟨-, h1, -, -, h4, h5, h6, h7, h8, h9, -, h11, h12, -, h14, -⟩ := build_eq_ok_iff.1 h
  simp only [providers, List.forall_mem_cons]
  exact ⟨Source.exists_of_optional h1, Source.exists_of_optional h4, Source.exists_of_optional h5,
    Source.exists_of_optional h6, Source.exists_of_optional h7, Source.exists_of_optional h8,
    Source.exists_of_optional h9, Source.exists_of_optional h11, Source.exists_of_optional h12,
    Source.exists_of_optional h14, List.forall_mem_nil _⟩

/-- Capabilities without those that are not modelled. -/
def modelled (c : ServerCapabilities) : ServerCapabilities :=
  { c with other := [] }

/-- Capabilities are built from the members of an object, and those that are not modelled are kept
beside them. -/
theorem decode_object_eq_ok_iff : decode (.object ms) = .ok c ↔
    record.decodeOpen (.object ms) = .ok (c.modelled, c.other) := by
  rw [decode, Json.map_eq_ok_iff]
  constructor
  · rintro ⟨⟨c', other⟩, hopen, rfl⟩
    obtain ⟨hbuild, -⟩ := record_fields.asks.decodeOpen_object_eq_ok_iff.1 hopen
    obtain ⟨-, -, -, -, -, -, -, -, -, -, -, -, -, -, -, hother⟩ := build_eq_ok_iff.1 hbuild
    obtain ⟨_, _, _, _, _, _, _, _, _, _, _, _, _, _, _, _⟩ := c'
    subst hother
    exact hopen
  · exact fun hopen ↦ ⟨_, hopen, rfl⟩

/-- Capabilities are decoded from objects only. -/
theorem exists_object_of_decode {v : Json} (h : decode v = .ok c) : ∃ ms, v = .object ms := by
  obtain ⟨⟨c', other⟩, hopen, -⟩ := Json.map_eq_ok_iff.1 h
  obtain ⟨ms, rfl, -⟩ := Json.Record.exists_of_decodeOpen hopen
  exact ⟨ms, rfl⟩

/-- What capabilities are written as is tidy in each field, and the other members are not modelled.
-/
theorem writes (h : c.IsSound) : Json.Writes fields c.entries c.other := by
  have tidy : ∀ {β : Type} (codec : Codec β) {sound : β → Prop} (o : Option β),
      codec.Lawful sound → (∀ b ∈ o, sound b) → ∀ v ∈ o.map codec.json, codec.shape.IsTidy v := by
    intro β codec sound o hlawful hsound v hv
    obtain ⟨b, hb, rfl⟩ := Option.map_eq_some_iff.1 hv
    exact hlawful.isTidy (hsound b hb)
  have provider : ∀ o ∈ c.providers, ∀ v ∈ o.map Provider.json, Shape.free.IsTidy v :=
    fun o ho ↦ tidy Provider.codec o Provider.lawful (h.providers o ho)
  obtain ⟨h1, h4, h5, h6, h7, h8, h9, h11, h12, h14, -⟩ := by
    simpa only [providers, List.forall_mem_cons] using provider
  refine record_fields.capitalised.writes ?_ h.canonical h.unspelled
  exact .cons ⟨rfl, tidy TextDocumentSync.codec _ TextDocumentSync.lawful fun _ _ ↦ trivial⟩ <|
    .cons ⟨rfl, h1⟩ <|
    .cons ⟨rfl, tidy CompletionOptions.codec _ CompletionOptions.lawful fun _ _ ↦ trivial⟩ <|
    .cons ⟨rfl, tidy SignatureHelpOptions.codec _ SignatureHelpOptions.lawful
      fun _ _ ↦ trivial⟩ <|
    .cons ⟨rfl, h4⟩ <| .cons ⟨rfl, h5⟩ <| .cons ⟨rfl, h6⟩ <| .cons ⟨rfl, h7⟩ <|
    .cons ⟨rfl, h8⟩ <| .cons ⟨rfl, h9⟩ <|
    .cons ⟨rfl, tidy CodeLensOptions.codec _ CodeLensOptions.lawful fun _ _ ↦ trivial⟩ <|
    .cons ⟨rfl, h11⟩ <| .cons ⟨rfl, h12⟩ <|
    .cons ⟨rfl, tidy DocumentOnTypeFormattingOptions.codec _
      DocumentOnTypeFormattingOptions.lawful fun _ _ ↦ trivial⟩ <|
    .cons ⟨rfl, h14⟩ .nil

/-- Capabilities are built again from what was written for them, exactly if the options of their
providers are plain. -/
theorem build_written (hsound : c.IsSound)
    (h : ∀ e ∈ c.entries, e.1.occurrences ms = (e.2.map Json.sorted).toList) :
    record.build (.members ms) = .ok c.modelled ↔
      ∀ o ∈ c.providers, ∀ p ∈ o, Provider.codec.KeepsPlain p := by
  have provider : ∀ o ∈ c.providers, ∀ (place : Nat) (f : Field),
      f.occurrences ms = ((o.map Provider.json).map Json.sorted).toList →
      (((Source.members ms).field place f decodeProvider).map Option.join = .ok o ↔
        ∀ p ∈ o, Provider.codec.KeepsPlain p) := by
    intro o ho place f hf
    refine (Json.field_optional place Provider.decode hf ?_).trans <|
      forall₂_congr fun p hp ↦ Provider.lawful.roundTrip (hsound.providers o ho p hp)
    rintro (_ | ms) <;> exact nofun
  have option : ∀ {β : Type} (codec : Codec β) {o : Option β} (place : Nat) (f : Field),
      codec.Lawful (fun _ ↦ True) → (∀ b, codec.kept b = []) → (∀ b, codec.json b ≠ .null) →
      f.occurrences ms = ((o.map codec.json).map Json.sorted).toList →
      ((Source.members ms).field place f (Json.decodeOption codec.decode)).map Option.join =
        .ok o := by
    intro β codec o place f hlawful hkept hnull hf
    exact (Json.field_optional place codec.decode hf hnull).2 fun b _ ↦
      hlawful.decode_json hkept b
  simp only [entries, List.forall_mem_cons] at h
  simp only [providers, List.forall_mem_cons] at provider
  obtain ⟨e0, e1, e2, e3, e4, e5, e6, e7, e8, e9, e10, e11, e12, e13, e14, -⟩ := h
  obtain ⟨p1, p4, p5, p6, p7, p8, p9, p11, p12, p14, -⟩ := provider
  have sync_ne_null : ∀ sync : TextDocumentSync, sync.json ≠ .null := by
    rintro (_ | _) <;> exact nofun
  rw [build_eq_ok_iff]
  simp only [providers, List.forall_mem_cons]
  constructor
  · rintro ⟨-, h1, -, -, h4, h5, h6, h7, h8, h9, -, h11, h12, -, h14, -⟩
    exact ⟨(p1 1 _ e1).1 h1, (p4 4 _ e4).1 h4, (p5 5 _ e5).1 h5, (p6 6 _ e6).1 h6,
      (p7 7 _ e7).1 h7, (p8 8 _ e8).1 h8, (p9 9 _ e9).1 h9, (p11 11 _ e11).1 h11,
      (p12 12 _ e12).1 h12, (p14 14 _ e14).1 h14, List.forall_mem_nil _⟩
  · rintro ⟨h1, h4, h5, h6, h7, h8, h9, h11, h12, h14, -⟩
    exact ⟨option TextDocumentSync.codec 0 _ TextDocumentSync.lawful (fun _ ↦ rfl) sync_ne_null e0,
      (p1 1 _ e1).2 h1,
      option CompletionOptions.codec 2 _ CompletionOptions.lawful (fun _ ↦ rfl) (fun _ ↦ nofun) e2,
      option SignatureHelpOptions.codec 3 _ SignatureHelpOptions.lawful (fun _ ↦ rfl)
        (fun _ ↦ nofun) e3,
      (p4 4 _ e4).2 h4, (p5 5 _ e5).2 h5, (p6 6 _ e6).2 h6, (p7 7 _ e7).2 h7, (p8 8 _ e8).2 h8,
      (p9 9 _ e9).2 h9,
      option CodeLensOptions.codec 10 _ CodeLensOptions.lawful (fun _ ↦ rfl) (fun _ ↦ nofun) e10,
      (p11 11 _ e11).2 h11, (p12 12 _ e12).2 h12,
      option DocumentOnTypeFormattingOptions.codec 13 _ DocumentOnTypeFormattingOptions.lawful
        (fun _ ↦ rfl) (fun _ ↦ nofun) e13,
      (p14 14 _ e14).2 h14, rfl⟩

/-- What is kept of capabilities are the options of the providers and the other members. -/
theorem keepsPlain_iff : codec.KeepsPlain c ↔
    (∀ o ∈ c.providers, ∀ p ∈ o, Provider.codec.KeepsPlain p) ∧ ∀ m ∈ c.other, m.2.IsPlain := by
  have hkept : codec.kept c =
      (c.providers.flatMap fun o ↦ o.toList.flatMap Provider.codec.kept) ++ [c.other] := rfl
  simp only [Codec.KeepsPlain, hkept, List.forall_mem_append, List.forall_mem_singleton,
    List.mem_flatMap, Option.mem_toList]
  refine and_congr_left' ⟨fun h o ho p hp ms hms ↦ h ms ⟨o, ho, p, hp, hms⟩, ?_⟩
  rintro h ms ⟨o, ho, p, hp, hms⟩
  exact h o ho p hp ms hms

theorem isSound_default : IsSound {} where
  providers := by simp [providers]
  canonical := Json.isCanonical_object.2 ⟨.nil, List.forall_mem_nil _⟩
  unspelled := List.forall_mem_nil _

theorem keepsPlain_default : codec.KeepsPlain {} :=
  keepsPlain_iff.2 ⟨by simp [providers], List.forall_mem_nil _⟩

/-- Capabilities are decoded from what they are written as, exactly if what is kept is plain. -/
theorem lawful : codec.Lawful IsSound where
  sound_of_decode {v c} hv h := by
    obtain ⟨ms, rfl⟩ := exists_object_of_decode h
    have hopen := decode_object_eq_ok_iff.1 h
    obtain ⟨hcanonical, hunspelled, -⟩ := record_fields.others_of_decodeOpen hopen
    obtain ⟨hbuild, -⟩ := record_fields.asks.decodeOpen_object_eq_ok_iff.1 hopen
    refine ⟨fun o ho p hp ↦ ?_, hcanonical hv, hunspelled⟩
    obtain ⟨w, hw, hdecode⟩ := exists_of_build hbuild o ho p hp
    obtain ⟨m, hm, rfl⟩ := List.mem_map.1 hw
    exact Provider.lawful.sound_of_decode ((Json.isCanonical_object.1 hv).2 m hm) hdecode
  keepsPlain {v c} hv h := by
    obtain ⟨ms, rfl⟩ := exists_object_of_decode h
    have hopen := decode_object_eq_ok_iff.1 h
    obtain ⟨-, -, hplain⟩ := record_fields.others_of_decodeOpen hopen
    obtain ⟨hbuild, -⟩ := record_fields.asks.decodeOpen_object_eq_ok_iff.1 hopen
    refine keepsPlain_iff.2 ⟨fun o ho p hp ↦ ?_, hplain hv⟩
    obtain ⟨w, hw, hdecode⟩ := exists_of_build hbuild o ho p hp
    obtain ⟨m, hm, rfl⟩ := List.mem_map.1 hw
    exact Provider.lawful.keepsPlain ((Json.all_object.1 hv).2 m hm) hdecode
  roundTrip {c} hc := by
    obtain ⟨ms, hsorted, hfields, hopen⟩ := (writes hc).exists_sorted record_fields
    rw [codec_decode, codec_json, json_eq, hsorted, decode_object_eq_ok_iff, hopen,
      build_written hc hfields, keepsPlain_iff]
  isTidy {c} hc := by
    rw [codec_json, json_eq]
    exact (writes hc).isTidy

end ServerCapabilities

/-! ### The answer to the handshake -/

namespace InitializeResult

/-- The modelled members of an answer. -/
def fields : List (Field × Shape) :=
  [(capabilitiesField, ServerCapabilities.codec.shape)]

/-- An answer has capabilities and other members. -/
def codec : Codec InitializeResult :=
  ⟨decode, json, .object fields, fun r ↦ r.capabilities.kept ++ [r.other]⟩

theorem codec_decode : codec.decode = decode := rfl

theorem codec_json : codec.json = json := rfl

variable {s : Source} {r : InitializeResult} {c : ServerCapabilities} {ms : Members}

theorem record_fields : record.Fields fields :=
  Json.Record.fields_one ⟨by decide, Field.capital_ofList _ _ _⟩ rfl (fun _ ↦ rfl)
    (ServerCapabilities.respects.orDefault _)

/-- The answer to a handshake is decoded alike in either spelling. -/
theorem respects : Respects codec.decode codec.shape :=
  record_fields.respects_decodeOpen.map _

/-- What holds of an answer that is decoded. -/
structure IsSound (r : InitializeResult) : Prop where
  capabilities : r.capabilities.IsSound
  canonical : IsCanonical (.object r.other)
  unspelled : ∀ m ∈ r.other, ∀ e ∈ fields, e.1.spells m.1 = false

/-- The capabilities in an answer are none, or decoded from a value in the source. -/
theorem cases_of_build (h : record.build s = .ok c) :
    c = {} ∨ ∃ v ∈ s.values, ServerCapabilities.decode v = .ok c := by
  obtain ⟨o, hfield, hc⟩ := Json.exists_of_bind_eq_ok h
  cases hc
  cases o with
  | none => exact .inl rfl
  | some c =>
    obtain ⟨v, hv, hdecode⟩ := Source.exists_of_field hfield
    obtain ⟨o, ho, hc⟩ := Json.map_eq_ok_iff.1 hdecode
    by_cases hnull : v = .null
    · subst hnull
      cases ho
      exact .inl hc.symm
    · rw [Json.decodeOption_of_ne _ hnull] at ho
      obtain ⟨c', hc', rfl⟩ := Json.map_eq_ok_iff.1 ho
      exact .inr ⟨v, hv, hc'.trans (congrArg _ hc)⟩

/-- An answer is decoded as its capabilities and the members beside them. -/
theorem decode_eq_ok_iff {v : Json} :
    decode v = .ok r ↔ record.decodeOpen v = .ok (r.capabilities, r.other) := by
  rw [decode, Json.map_eq_ok_iff]
  constructor
  · rintro ⟨⟨c, other⟩, hopen, rfl⟩
    exact hopen
  · exact fun hopen ↦ ⟨_, hopen, rfl⟩

/-- An answer is written as its capabilities and members that are not modelled. -/
theorem writes (h : r.IsSound) :
    Json.Writes fields [(capabilitiesField, some r.capabilities.json)] r.other := by
  refine record_fields.capitalised.writes (.cons ⟨rfl, ?_⟩ .nil) h.canonical h.unspelled
  rintro _ ⟨⟩
  exact ServerCapabilities.lawful.isTidy h.capabilities

/-- Capabilities are built again from what was written for them, exactly if they keep plain
values. -/
theorem build_written (hsound : c.IsSound)
    (h : capabilitiesField.occurrences ms = [c.json.sorted]) :
    record.build (.members ms) = .ok c ↔ ServerCapabilities.codec.KeepsPlain c := by
  have hnull : c.json.sorted ≠ .null := Json.sorted_ne_null nofun
  have hvalue : decodeCapabilities c.json.sorted = ServerCapabilities.decode c.json.sorted := by
    rw [decodeCapabilities, Json.orDefault, Json.decodeOption_of_ne _ hnull]
    cases ServerCapabilities.decode c.json.sorted <;> rfl
  have hfield := Json.field_of_occurrences_singleton h 0 decodeCapabilities
  rw [hvalue] at hfield
  rw [← ServerCapabilities.lawful.roundTrip hsound, ServerCapabilities.codec_decode,
    ServerCapabilities.codec_json]
  show (Source.field (.members ms) 0 capabilitiesField decodeCapabilities).bind
    (fun o ↦ .ok (o.getD {})) = .ok c ↔ _
  rw [hfield]
  cases ServerCapabilities.decode c.json.sorted with
  | error e => simp [Except.bind, Except.map]
  | ok c' => exact Iff.rfl

/-- What is kept of an answer is what is kept of its capabilities and the other members. -/
theorem keepsPlain_iff : codec.KeepsPlain r ↔
    ServerCapabilities.codec.KeepsPlain r.capabilities ∧ ∀ m ∈ r.other, m.2.IsPlain := by
  refine List.forall_mem_append.trans (and_congr_right' ?_)
  exact List.forall_mem_singleton

/-- The answer to a handshake is decoded from what it is written as, exactly if what is kept is
plain. -/
theorem lawful : codec.Lawful IsSound where
  sound_of_decode {v r} hv h := by
    have hopen := decode_eq_ok_iff.1 h
    obtain ⟨hcanonical, hunspelled, -⟩ := record_fields.others_of_decodeOpen hopen
    obtain ⟨ms, rfl, hbuild, -⟩ := Json.Record.exists_of_decodeOpen hopen
    refine ⟨?_, hcanonical hv, hunspelled⟩
    rcases cases_of_build hbuild with hnone | ⟨w, hw, hdecode⟩
    · rw [hnone]
      exact ServerCapabilities.isSound_default
    · obtain ⟨m, hm, rfl⟩ := List.mem_map.1 hw
      exact ServerCapabilities.lawful.sound_of_decode ((Json.isCanonical_object.1 hv).2 m hm)
        hdecode
  keepsPlain {v r} hv h := by
    have hopen := decode_eq_ok_iff.1 h
    obtain ⟨-, -, hplain⟩ := record_fields.others_of_decodeOpen hopen
    obtain ⟨ms, rfl, hbuild, -⟩ := Json.Record.exists_of_decodeOpen hopen
    refine keepsPlain_iff.2 ⟨?_, hplain hv⟩
    rcases cases_of_build hbuild with hnone | ⟨w, hw, hdecode⟩
    · rw [hnone]
      exact ServerCapabilities.keepsPlain_default
    · obtain ⟨m, hm, rfl⟩ := List.mem_map.1 hw
      exact ServerCapabilities.lawful.keepsPlain ((Json.all_object.1 hv).2 m hm) hdecode
  roundTrip {r} hr := by
    obtain ⟨ms, hsorted, hfields, hopen⟩ := (writes hr).exists_sorted record_fields
    have hjson : r.json =
        .object (Json.written [(capabilitiesField, some r.capabilities.json)] r.other) := rfl
    rw [codec_decode, codec_json, hjson, hsorted, decode_eq_ok_iff, hopen,
      build_written hr.capabilities (hfields _ List.mem_cons_self), keepsPlain_iff]
  isTidy hr := (writes hr).isTidy

end InitializeResult

/-! ### What a client says -/

namespace ClientCapabilities

/-- What is kept of a client's capabilities are all of their members. -/
def codec : Codec ClientCapabilities :=
  ⟨decode, json, .object [], fun c ↦ [c.other]⟩

theorem codec_decode : codec.decode = decode := rfl

theorem codec_json : codec.json = json := rfl

theorem record_fields : record.Fields [] where
  capitalised := ⟨.nil, trivial⟩
  layout := .nil
  asks _ _ _ := List.forall_mem_nil _
  build _ _ _ := rfl

theorem respects : Respects codec.decode codec.shape :=
  record_fields.respects_decodeOpen.map _

/-- A client's capabilities are decoded as the members of an object. -/
theorem decode_eq_ok_iff {v : Json} {c : ClientCapabilities} :
    decode v = .ok c ↔ record.decodeOpen v = .ok ((), c.other) := by
  rw [decode, Json.map_eq_ok_iff]
  constructor
  · rintro ⟨⟨⟨⟩, other⟩, hopen, rfl⟩
    exact hopen
  · exact fun hopen ↦ ⟨_, hopen, rfl⟩

/-- A client's capabilities are decoded from what they are written as, exactly if they are plain. -/
theorem lawful : codec.Lawful fun c ↦ IsCanonical c.json where
  sound_of_decode hv h :=
    (record_fields.others_of_decodeOpen (decode_eq_ok_iff.1 h)).1 hv
  keepsPlain hv h := List.forall_mem_singleton.2
    ((record_fields.others_of_decodeOpen (decode_eq_ok_iff.1 h)).2.2 hv)
  roundTrip {c} hc := by
    have hwrites : Json.Writes [] [] c.other :=
      record_fields.capitalised.writes .nil hc fun _ _ ↦ List.forall_mem_nil _
    obtain ⟨ms, hsorted, -, hopen⟩ := hwrites.exists_sorted record_fields
    have hjson : c.json = .object (Json.written [] c.other) := rfl
    have hkept : codec.KeepsPlain c ↔ ∀ m ∈ c.other, m.2.IsPlain := List.forall_mem_singleton
    rw [codec_decode, codec_json, hjson, hsorted, decode_eq_ok_iff, hopen, hkept]
    exact and_iff_right rfl
  isTidy hc :=
    (record_fields.capitalised.writes .nil hc fun _ _ ↦ List.forall_mem_nil _).isTidy

end ClientCapabilities

/-! ### The params of the handshake -/

namespace InitializeParams

/-- The modelled members of the params. -/
def fields : List (Field × Shape) :=
  [(processIdField, .free), (rootPathField, .free),
    (capabilitiesField, ClientCapabilities.codec.shape)]

/-- The params have a client's capabilities among their members, and no others. -/
def codec : Codec InitializeParams :=
  ⟨record.decode, json, .object fields, fun p ↦ ClientCapabilities.codec.kept p.capabilities⟩

theorem codec_decode : codec.decode = record.decode := rfl

theorem codec_json : codec.json = json := rfl

variable {s : Source} {p : InitializeParams} {ms : Members}

/-- Params are built from members exactly if their fields are given the values. -/
theorem build_members_eq_ok_iff : record.build (.members ms) = .ok p ↔
    ((Source.members ms).field 0 processIdField decodeProcessId).map Option.join =
      .ok p.processId ∧
    ((Source.members ms).field 1 rootPathField decodeRootPath).map Option.join = .ok p.rootPath ∧
    (Source.members ms).field 2 capabilitiesField ClientCapabilities.decode =
      .ok (some p.capabilities) := by
  constructor
  · intro h
    obtain ⟨processId, h0, h⟩ := Json.exists_of_bind_eq_ok h
    obtain ⟨rootPath, h1, h⟩ := Json.exists_of_bind_eq_ok h
    obtain ⟨capabilities, h2, h⟩ := Json.exists_of_bind_eq_ok h
    cases h
    exact ⟨h0, h1, Source.field_of_required h2⟩
  · rintro ⟨h0, h1, h2⟩
    simp only [record, optional, h0, h1, Source.required, h2]
    rfl

/-- Params that are built from members have asked for every field. -/
theorem asks : record.Asks := by
  intro ms p h
  obtain ⟨h0, h1, h2⟩ := build_members_eq_ok_iff.1 h
  obtain ⟨processId, h0, -⟩ := Json.map_eq_ok_iff.1 h0
  obtain ⟨rootPath, h1, -⟩ := Json.map_eq_ok_iff.1 h1
  simp only [record, List.forall_mem_cons]
  exact ⟨Json.exists_field_check h0, Json.exists_field_check h1, Json.exists_field_check h2,
    List.forall_mem_nil _⟩

/-- The capabilities in params are decoded from a value in the source. -/
theorem exists_of_build (h : record.build s = .ok p) :
    ∃ v ∈ s.values, ClientCapabilities.decode v = .ok p.capabilities := by
  obtain ⟨processId, -, h⟩ := Json.exists_of_bind_eq_ok h
  obtain ⟨rootPath, -, h⟩ := Json.exists_of_bind_eq_ok h
  obtain ⟨capabilities, h2, h⟩ := Json.exists_of_bind_eq_ok h
  cases h
  exact Source.exists_of_field (Source.field_of_required h2)

/-- The JSON form of a process. -/
def processJson (o : Option UInt32) : Json :=
  Json.ofOption (fun n ↦ .ofNat n.toUInt64) o

/-- A 32-bit number is read back. -/
theorem decodeNat_ofNat (n : UInt32) :
    Json.decodeNat UInt32.size "u32" (.ofNat n.toUInt64) = .ok n.toNat := by
  have hint : (n.toUInt64.toNat : Int) = n.toNat := by rw [UInt32.toNat_toUInt64]
  have hlt : n.toNat < UInt32.size := n.toNat_lt
  have hrange : (0 : Int) ≤ n.toNat ∧ (n.toNat : Int) ≤ UInt32.size - 1 := by omega
  rw [Json.decodeNat, Json.ofNat, Json.decodeInt, Json.Number.int?]
  simp only [hint]
  rw [if_pos hrange]
  rfl

/-- A process id is decoded from what it is written as, and so is one that is missing. -/
theorem decodeProcessId_json (o : Option UInt32) :
    decodeProcessId (processJson o).sorted = .ok o := by
  cases o with
  | none => rfl
  | some n =>
    have hnumber : (processJson (some n)).sorted = .ofNat n.toUInt64 := rfl
    have hne : Json.ofNat n.toUInt64 ≠ .null := nofun
    rw [hnumber, decodeProcessId, Json.decodeOption_of_ne _ hne, decodeNat_ofNat]
    show Except.ok (some (UInt32.ofNat n.toNat)) = _
    rw [UInt32.ofNat_toNat]

/-- A root path is decoded from what it is written as, and so is one that is missing. -/
theorem decodeRootPath_json (o : Option String) :
    decodeRootPath (Json.ofOption .string o).sorted = .ok o := by
  cases o <;> rfl

/-- The values that are written. -/
def entries (p : InitializeParams) : List (Field × Option Json) :=
  [(processIdField, some (processJson p.processId)),
    (rootPathField, some (.ofOption .string p.rootPath)),
    (capabilitiesField, some p.capabilities.json)]

theorem json_eq (p : InitializeParams) : p.json = .object (Json.written p.entries []) := rfl

/-- What params are written as is tidy, and there is nothing beside it. -/
theorem writes (h : IsCanonical p.capabilities.json) : Json.Writes fields p.entries [] where
  isWritten := {
    apart := by
      show ([processIdField, rootPathField, capabilitiesField] : List Field).Pairwise _
      decide
    canonical := Json.isCanonical_object.2 ⟨.nil, List.forall_mem_nil _⟩
    unspelled := List.forall_mem_nil _ }
  values := by
    refine .cons ⟨rfl, ?_⟩ (.cons ⟨rfl, ?_⟩ (.cons ⟨rfl, ?_⟩ .nil))
    · rintro _ ⟨⟩
      cases p.processId <;> exact isTidy_free trivial
    · rintro _ ⟨⟩
      cases p.rootPath <;> exact isTidy_free trivial
    · rintro _ ⟨⟩
      exact ClientCapabilities.lawful.isTidy h
  apart := by
    show ([processIdField, rootPathField, capabilitiesField].map Field.capital).Pairwise _
    decide
  unmodelled := List.forall_mem_nil _

/-- Params are decoded from what they are written as, exactly if the capabilities are plain. -/
theorem lawful : codec.Lawful fun p ↦ IsCanonical p.capabilities.json where
  sound_of_decode {v p} hv h := by
    obtain ⟨s, hbuild, hall⟩ := Json.Record.exists_of_decode h
    obtain ⟨w, hw, hdecode⟩ := exists_of_build hbuild
    exact ClientCapabilities.lawful.sound_of_decode (hall _ hv w hw) hdecode
  keepsPlain {v p} hv h := by
    obtain ⟨s, hbuild, hall⟩ := Json.Record.exists_of_decode h
    obtain ⟨w, hw, hdecode⟩ := exists_of_build hbuild
    exact ClientCapabilities.lawful.keepsPlain (hall _ hv w hw) hdecode
  roundTrip {p} hp := by
    obtain ⟨ms, hsorted, hfields, -⟩ := (writes hp).isWritten.exists_sorted
    simp only [entries, List.forall_mem_cons] at hfields
    obtain ⟨h0, h1, h2, -⟩ := hfields
    have hprocess := Json.field_of_occurrences_singleton h0 0 decodeProcessId
    have hroot := Json.field_of_occurrences_singleton h1 1 decodeRootPath
    have hcapabilities := Json.field_of_occurrences_singleton h2 2 ClientCapabilities.decode
    rw [decodeProcessId_json] at hprocess
    rw [decodeRootPath_json] at hroot
    have hkept : codec.KeepsPlain p ↔ ClientCapabilities.codec.KeepsPlain p.capabilities := Iff.rfl
    have hrecord : record.decode (.object ms) = record.ofMembers ms := rfl
    rw [codec_decode, codec_json, json_eq, hsorted, hrecord, asks.ofMembers_eq_ok_iff,
      build_members_eq_ok_iff, hprocess, hroot, hcapabilities, hkept,
      ← ClientCapabilities.lawful.roundTrip hp, ClientCapabilities.codec_decode,
      ClientCapabilities.codec_json, Json.map_some_eq_ok_iff]
    exact (and_iff_right rfl).trans (and_iff_right rfl)
  isTidy {p} hp := (writes hp).isTidy

end InitializeParams

end LspClient.Lsp
