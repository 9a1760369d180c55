import LspClient.Proofs.Json.Nulls
import LspClient.Proofs.Payload.Handshake

/-!
# Nulls in an answer

Every modelled member of an answer to `initialize` may be `null`, which says the same as leaving it
out: the capabilities, each of the fifteen capabilities, and the members of the options in them.
That a record takes nulls is shown for each record from what stands for `null` in its fields
(`…takesNulls`), and put together along the way in which they are nested
(`InitializeResult.ignoresNulls`).
-/

namespace LspClient.Lsp

open Json (Decoder Field IgnoresNulls Members Shape Source)

/-! ### Options -/

/-- Both options for synchronising documents may be null. -/
theorem TextDocumentSyncOptions.takesNulls : record.TakesNulls fields :=
  Json.Record.takesNulls_two record_fields (fun _ ↦ rfl) rfl rfl rfl (fun _ ↦ rfl)
    (Json.ignoresNulls_free _) (Json.ignoresNulls_free _)

/-- In a way to synchronise a null makes no difference. -/
theorem TextDocumentSync.ignoresNulls : IgnoresNulls codec.decode codec.shape :=
  .decodeEither ((Json.ignoresNulls_of_object decode_kind_object _).map _)
    (TextDocumentSyncOptions.takesNulls.ignoresNulls_decode.map _) _

/-- Both options for completion may be null. -/
theorem CompletionOptions.takesNulls : record.TakesNulls fields :=
  Json.Record.takesNulls_two record_fields (fun _ ↦ rfl) rfl rfl rfl (fun _ ↦ rfl)
    (Json.ignoresNulls_free _) (Json.ignoresNulls_free _)

theorem SignatureHelpOptions.takesNulls : record.TakesNulls fields :=
  Json.Record.takesNulls_one record_fields (fun _ ↦ rfl) rfl rfl (Json.ignoresNulls_free _)

theorem CodeLensOptions.takesNulls : record.TakesNulls fields :=
  Json.Record.takesNulls_one record_fields (fun _ ↦ rfl) rfl rfl (Json.ignoresNulls_free _)

theorem DocumentOnTypeFormattingOptions.takesNulls : record.TakesNulls fields :=
  Json.Record.takesNulls_two record_fields (fun _ ↦ rfl) rfl rfl rfl (fun _ ↦ rfl)
    (Json.ignoresNulls_free _) (Json.ignoresNulls_free _)

/-! ### Capabilities -/

namespace ServerCapabilities

/-- In optional options a null makes no difference, if none does in the options. -/
theorem ignoresNulls_options {α : Type} {record : Json.Record α} {fields : List (Field × Shape)}
    (h : record.TakesNulls fields) : IgnoresNulls (decodeOptions record) (.object fields) :=
  h.ignoresNulls_decode.decodeOption

theorem ignoresNulls_sync : IgnoresNulls decodeSync TextDocumentSync.codec.shape :=
  TextDocumentSync.ignoresNulls.decodeOption

/-- Each of the capabilities may be null. -/
theorem takesNulls : record.TakesNulls fields where
  isRecord := record_fields
  build _ _ h :=
    -- each capability is optional, so that `null` stands for none
    toOption_build_congr
      (P := fun decode shape ↦ decode .null = .ok none ∧ IgnoresNulls decode shape)
      (fun hdecode hf place ↦ h _ hf hdecode.1 hdecode.2 rfl place)
      ⟨rfl, ignoresNulls_sync⟩ ⟨rfl, Json.ignoresNulls_free _⟩
      ⟨rfl, ignoresNulls_options CompletionOptions.takesNulls⟩
      ⟨rfl, ignoresNulls_options SignatureHelpOptions.takesNulls⟩
      ⟨rfl, ignoresNulls_options CodeLensOptions.takesNulls⟩
      ⟨rfl, ignoresNulls_options DocumentOnTypeFormattingOptions.takesNulls⟩

/-- In capabilities a null makes no difference, at any depth that is modelled. -/
theorem ignoresNulls : IgnoresNulls codec.decode codec.shape :=
  takesNulls.ignoresNulls_decodeOpen.map _

end ServerCapabilities

/-! ### The answer to the handshake -/

namespace InitializeResult

/-- The capabilities in an answer may be null. -/
theorem takesNulls : record.TakesNulls fields :=
  Json.Record.takesNulls_one record_fields (fun _ ↦ rfl) rfl rfl
    (ServerCapabilities.ignoresNulls.orDefault _)

/-- In the answer to a handshake a null makes no difference. -/
theorem ignoresNulls : IgnoresNulls codec.decode codec.shape :=
  takesNulls.ignoresNulls_decodeOpen.map _

/-- An object that holds both spellings of a member is not decoded. -/
theorem not_holdsBothAmong_of_decode {ms : Members} {r : InitializeResult}
    (h : decode (.object ms) = .ok r) : ¬Shape.HoldsBothAmong fields ms := by
  intro hboth
  have hholds : (Shape.object fields).HoldsBoth (.object ms) := by
    rw [Shape.HoldsBoth]
    exact ⟨ms, rfl, hboth⟩
  have hnone : (decode (.object ms)).toOption = none := respects.holdsBoth _ hholds
  rw [h] at hnone
  cases hnone

/-- **Null means absent throughout an answer.**

* An object to which one modelled member is added as `null`, at any place where neither spelling of
  it occurs, is decoded as the same answer as it was, or not at all, as it was not.
* An object that is decoded is decoded as the same answer without any set of null members. So is
  only an object that was decoded before, unless a modelled object in it held both spellings of a
  member. -/
theorem decode_nulls (ms : Members) :
    (∀ ms', Shape.AddsNull fields ms ms' →
      ∀ r, decode (.object ms) = .ok r ↔ decode (.object ms') = .ok r) ∧
    ∀ ms', Json.HasUniqueNames (.object ms) → Shape.DropsNulls fields ms ms' →
      (∀ r, decode (.object ms) = .ok r → decode (.object ms') = .ok r) ∧
      (¬Shape.HoldsBothAmong fields ms →
        ∀ r, decode (.object ms') = .ok r → decode (.object ms) = .ok r) := by
  refine ⟨fun ms' hadds r ↦ ?_, fun ms' hunique hdrops ↦ ?_⟩
  · rw [← Json.toOption_eq_some_iff, ← Json.toOption_eq_some_iff]
    exact iff_of_eq (congrArg (· = some r) (ignoresNulls _ _ (.object hadds)))
  have hsame : ¬Shape.HoldsBothAmong fields ms →
      ∀ r, decode (.object ms) = .ok r ↔ decode (.object ms') = .ok r := fun hboth r ↦ by
    have hoption := ignoresNulls.toOption_eq_of_dropsNulls hdrops hunique hboth
    rw [← Json.toOption_eq_some_iff, ← Json.toOption_eq_some_iff]
    exact iff_of_eq (congrArg (· = some r) hoption)
  exact ⟨fun r hr ↦ (hsame (not_holdsBothAmong_of_decode hr) r).1 hr,
    fun hboth r ↦ (hsame hboth r).2⟩

/-- The members of an answer whose options leave one of their members out. -/
def sparseAnswer : Members :=
  [("capabilities", .object [("textDocumentSync", .object [("openClose", .bool true)])]),
    ("serverInfo", .null)]

/-- The members of that answer with the member in question as `null`. -/
def nullAnswer : Members :=
  [("capabilities",
    .object [("textDocumentSync", .object [("Change", .null), ("openClose", .bool true)])]),
    ("serverInfo", .null)]

theorem capabilitiesField_mem :
    (capabilitiesField, Shape.object ServerCapabilities.fields) ∈ fields :=
  List.mem_cons_self

/-- Both say the same, and are decoded. -/
theorem decode_nulls_nullAnswer :
    Shape.AddsNull fields sparseAnswer nullAnswer ∧ Json.HasUniqueNames (.object nullAnswer) ∧
      Shape.DropsNulls fields nullAnswer sparseAnswer ∧ ¬Shape.HoldsBothAmong fields nullAnswer ∧
      ∃ r, decode (.object sparseAnswer) = .ok r ∧ decode (.object nullAnswer) = .ok r := by
  have hsync : (ServerCapabilities.textDocumentSyncField,
      Shape.object TextDocumentSyncOptions.fields) ∈ ServerCapabilities.fields :=
    List.mem_cons_self
  have hchange : (TextDocumentSyncOptions.changeField, Shape.free) ∈
      TextDocumentSyncOptions.fields := List.mem_cons_of_mem _ List.mem_cons_self
  have hcapital : TextDocumentSyncOptions.changeField.IsSpelling "Change" := .inr (by decide)
  have hadds : Shape.AddsNull fields sparseAnswer nullAnswer := by
    refine @Shape.AddsNull.inside _ _ _ _ [] _ _ _ capabilitiesField_mem (.inl rfl) ?_
    refine @Shape.AddsNull.inside _ _ _ _ [] [] _ _ hsync (.inl rfl) ?_
    refine @Shape.AddsNull.here _ _ _ [] _ hchange hcapital (List.forall_mem_singleton.2 ?_)
    rintro (h | h)
    · exact absurd h (by decide)
    · exact absurd h (by decide)
  have hdrops : Shape.DropsNulls fields nullAnswer sparseAnswer :=
    .inside capabilitiesField_mem (.inl rfl)
      (.inside hsync (.inl rfl) (.drop hchange hcapital (.keep _ .nil)) .nil) (.keep _ .nil)
  have hunique : Json.HasUniqueNames (.object nullAnswer) :=
    ⟨by decide, ⟨by decide, ⟨by decide, trivial, trivial, trivial⟩, trivial⟩, trivial, trivial⟩
  have hdecodes : (decode (.object nullAnswer)).toOption.isSome = true := by decide +kernel
  obtain ⟨r, hr⟩ := Option.isSome_iff_exists.1 hdecodes
  replace hr : decode (.object nullAnswer) = .ok r := Json.toOption_eq_some_iff.1 hr
  have hboth : ¬Shape.HoldsBothAmong fields nullAnswer := not_holdsBothAmong_of_decode hr
  obtain ⟨hsame, -⟩ := decode_nulls sparseAnswer
  obtain ⟨-, hremove⟩ := decode_nulls nullAnswer
  have hsparse := (hremove _ hunique hdrops).1 r hr
  exact ⟨hadds, hunique, hdrops, hboth, r, hsparse, (hsame _ hadds r).1 hsparse⟩

/-- A null member makes a difference where the same member is given in the other spelling. -/
theorem decode_nulls_twice : ¬∀ ms ms', Json.HasUniqueNames (.object ms) →
    Shape.DropsNulls fields ms ms' →
      ∀ r, decode (.object ms) = .ok r ↔ decode (.object ms') = .ok r := by
  intro h
  let twice : Members :=
    [("capabilities", .object [("HoverProvider", .null), ("hoverProvider", .bool true)])]
  let once : Members := [("capabilities", .object [("hoverProvider", .bool true)])]
  have hhover : (ServerCapabilities.hoverProviderField, Shape.free) ∈ ServerCapabilities.fields :=
    List.mem_cons_of_mem _ List.mem_cons_self
  have hunique : Json.HasUniqueNames (.object twice) :=
    ⟨by decide, ⟨by decide, trivial, trivial, trivial⟩, trivial⟩
  have hdrops : Shape.DropsNulls fields twice once :=
    .inside capabilitiesField_mem (.inl rfl) (.drop hhover (.inr (by decide)) (.keep _ .nil)) .nil
  have hdecodes : (decode (.object once)).toOption.isSome = true := by decide +kernel
  have hrefused : (decode (.object twice)).toOption.isNone = true := by decide +kernel
  obtain ⟨r, hr⟩ := Option.isSome_iff_exists.1 hdecodes
  have htwice := (h _ _ hunique hdrops r).2 (Json.toOption_eq_some_iff.1 hr)
  rw [htwice] at hrefused
  cases hrefused

end InitializeResult

end LspClient.Lsp
