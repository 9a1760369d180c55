import LspClient.Lsp.Initialize
import LspClient.Proofs.Payload.Codec

/-!
# Codecs of options

The codecs of providers, of ways to synchronise documents, of options and of the hint in a refusal,
each with its laws (`…lawful`) and its shape (`…respects`). All but providers keep nothing, and are
records of one or two fields.
-/

namespace LspClient.Lsp

open Json (Field Members Respects Shape)

/-! ### Values of fields -/

/-- The value of a list of strings, which is not written if it is empty. -/
def stringsValue (xs : List String) : Option Json :=
  if xs.isEmpty then none else some (.array (xs.map .string))

/-- The member of a list of strings is its value under the name. -/
theorem stringsMember_eq (name : String) (xs : List String) :
    stringsMember name xs = ((stringsValue xs).map (name, ·)).toList := by
  rw [stringsMember, stringsValue]
  split <;> rfl

/-- An optional member is what is written for its value under the name. -/
theorem optionalMember_eq {α : Type} (name : String) (json : α → Json) (o : Option α) :
    optionalMember name json o = ((o.map json).map (name, ·)).toList := by
  cases o <;> rfl

/-- A list of strings is decoded from what it is written as. -/
theorem decodeList_strings (xs : List String) :
    Json.decodeList Json.decodeString (.array (xs.map .string)) = .ok xs := by
  rw [Json.decodeList]
  induction xs with
  | nil => rfl
  | cons x xs ih =>
    rw [List.map_cons, List.mapM_cons, ih]
    rfl

theorem isCanonical_strings (xs : List String) :
    Json.IsCanonical (.array (xs.map .string)) := by
  refine Json.isCanonical_array.2 fun v hv ↦ ?_
  obtain ⟨x, -, rfl⟩ := List.mem_map.1 hv
  trivial

section field

variable {ms : Members} {f : Field}

/-- A field for strings gives the strings that were written, and none where nothing was. -/
theorem field_strings (place : Nat) {xs : List String}
    (h : f.occurrences ms = ((stringsValue xs).map Json.sorted).toList) :
    ∃ o, (Json.Source.members ms).field place f decodeStrings = .ok o ∧ o.getD [] = xs := by
  refine Json.map_eq_ok_iff.1 ?_
  by_cases hxs : xs = []
  · subst hxs
    rw [Json.field_of_occurrences_nil h]
    rfl
  · rw [stringsValue, if_neg (by simpa using hxs), Option.map_some,
      (isCanonical_strings xs).sorted_eq] at h
    exact Json.field_default place h nofun (decodeList_strings xs)

/-- A field for a flag gives the flag that was written. -/
theorem field_flag (place : Nat) {b : Bool} (h : f.occurrences ms = [.bool b]) :
    ∃ o, (Json.Source.members ms).field place f decodeFlag = .ok o ∧ o.getD false = b :=
  Json.map_eq_ok_iff.1 (Json.field_default place h nofun rfl)

/-- A field for a text gives the text that was written. -/
theorem field_text (place : Nat) {s : String} (h : f.occurrences ms = [.string s]) :
    ∃ o, (Json.Source.members ms).field place f decodeText = .ok o ∧ o.getD "" = s :=
  Json.map_eq_ok_iff.1 (Json.field_default place h nofun rfl)

end field

theorem isTidy_bool (b : Bool) : Shape.free.IsTidy (.bool b) :=
  ⟨trivial, by rw [Shape.IsCamelCase]; trivial⟩

/-- Where nothing is modelled, a value that was kept is tidy. -/
theorem isTidy_free {v : Json} (h : v.IsCanonical) : Shape.free.IsTidy v :=
  ⟨h.hasUniqueNames, by rw [Shape.IsCamelCase]; trivial⟩

theorem isTidy_strings (xs : List String) : ∀ v ∈ stringsValue xs, Shape.free.IsTidy v := by
  intro v hv
  rw [stringsValue] at hv
  split at hv
  · cases hv
  · cases hv
    exact isTidy_free (isCanonical_strings xs)

/-! ### Providers -/

namespace Provider

/-- What is kept of a provider are its options. -/
def kept : Provider → List Members
  | flag _ => []
  | options members => [members]

/-- A provider has no modelled members. -/
def codec : Codec Provider :=
  ⟨decode, json, .free, kept⟩

/-- An object is decoded as options if its members can be kept, and otherwise as no provider. -/
theorem decode_object (ms : Members) :
    decode (.object ms) = match Json.decodeMembers Json.aloneInPart ms with
      | .ok members => .ok (options members)
      | .error _ => .error (.noVariant "Provider") := by
  have hobject : Json.decodeObject (.object ms) = Json.decodeMembers Json.aloneInPart ms := rfl
  rw [decode, Json.decodeEither, hobject]
  cases Json.decodeMembers Json.aloneInPart ms <;> rfl

/-- A provider is decoded from a flag or from an object. -/
theorem exists_of_decode {v : Json} {p : Provider} (h : decode v = .ok p) :
    (∃ b, v = .bool b ∧ p = flag b) ∨ ∃ ms members, v = .object ms ∧ p = options members ∧
      Json.decodeMembers Json.aloneInPart ms = .ok members := by
  cases v with
  | bool b =>
    cases h
    exact .inl ⟨b, rfl, rfl⟩
  | object ms =>
    rw [decode_object] at h
    cases hms : Json.decodeMembers Json.aloneInPart ms with
    | error e => rw [hms] at h; cases h
    | ok members =>
      rw [hms] at h
      cases h
      exact .inr ⟨ms, members, rfl, rfl, hms⟩
  | null | number | string | array => cases h

/-- A provider is decoded from what it is written as, if its options are plain. -/
theorem lawful : codec.Lawful fun p ↦ p.json.IsCanonical where
  sound_of_decode {v p} hv h := by
    rcases exists_of_decode h with ⟨b, -, rfl⟩ | ⟨ms, members, rfl, rfl, hms⟩
    · trivial
    · exact Json.isCanonical_of_decodeMembers hv hms
  keepsPlain {v p} hv h := by
    rcases exists_of_decode h with ⟨b, -, rfl⟩ | ⟨ms, members, rfl, rfl, hms⟩
    · exact List.forall_mem_nil _
    · exact List.forall_mem_singleton.2 (Json.isPlain_of_decodeMembers (Json.all_object.1 hv).2 hms)
  roundTrip {p} hp := by
    show decode p.json.sorted = .ok p ↔ _
    rw [hp.sorted_eq]
    cases p with
    | flag b => exact ⟨fun _ ↦ List.forall_mem_nil _, fun _ ↦ rfl⟩
    | options members =>
      have hplain : codec.KeepsPlain (options members) ↔ ∀ m ∈ members, m.2.IsPlain :=
        List.forall_mem_singleton
      rw [hplain, ← Json.decodeMembers_eq_self_iff Json.aloneInPart, json,
        decode_object]
      cases Json.decodeMembers Json.aloneInPart members <;> simp
  isTidy hp := isTidy_free hp

end Provider

/-! ### Synchronising documents -/

namespace TextDocumentSyncKind

/-- A kind is a number. -/
def codec : Codec TextDocumentSyncKind :=
  ⟨decode, json, .free, fun _ ↦ []⟩

/-- A kind of synchronisation is decoded from its number. -/
theorem decode_json (kind : TextDocumentSyncKind) : decode kind.json = .ok kind := by
  cases kind <;> rfl

theorem lawful : codec.Lawful fun _ ↦ True :=
  Codec.lawful_of_kept_eq_nil (fun _ ↦ rfl) decode_json fun _ ↦ isTidy_free trivial

end TextDocumentSyncKind

namespace TextDocumentSyncOptions

/-- The modelled members of the options. -/
def fields : List (Field × Shape) :=
  [(openCloseField, .free), (changeField, .free)]

/-- The options are an object of two members. -/
def codec : Codec TextDocumentSyncOptions :=
  ⟨record.decode, json, .object fields, fun _ ↦ []⟩

/-- The fields of the options for synchronising documents are those that their record reads. -/
theorem record_fields : record.Fields fields :=
  Json.Record.fields_two
    ⟨by decide, Field.capital_ofList _ _ _, Field.capital_ofList _ _ _⟩
    rfl (fun _ ↦ rfl) (Json.respects_free _) (Json.respects_free _)

/-- The values that are written. -/
def entries (options : TextDocumentSyncOptions) : List (Field × Option Json) :=
  [(openCloseField, options.openClose.map .bool),
    (changeField, options.change.map TextDocumentSyncKind.json)]

theorem json_eq (options : TextDocumentSyncOptions) :
    options.json = .object (Json.written options.entries []) := by
  rw [json, entries, Json.written_cons, Json.written_cons, Json.written_nil, List.append_nil,
    optionalMember_eq, optionalMember_eq]
  rfl

/-- These options are decoded from what they are written as. -/
theorem lawful : codec.Lawful fun _ ↦ True := by
  refine Codec.lawful_of_record record_fields json_eq
    (fun options ↦ .cons ⟨rfl, ?_⟩ (.cons ⟨rfl, ?_⟩ .nil)) fun options ms h ↦ ?_
  · intro v hv
    obtain ⟨b, -, rfl⟩ := Option.map_eq_some_iff.1 hv
    exact isTidy_bool b
  · intro v hv
    obtain ⟨kind, -, rfl⟩ := Option.map_eq_some_iff.1 hv
    exact isTidy_free trivial
  · obtain ⟨hopenClose, hrest⟩ := List.forall_mem_cons.1 h
    have hchange := hrest _ List.mem_cons_self
    obtain ⟨o, ho, hjoin⟩ := Json.map_eq_ok_iff.1 <|
      (Json.field_optional 0 Json.decodeBool hopenClose fun _ ↦ nofun).2 fun _ _ ↦ rfl
    obtain ⟨o', ho', hjoin'⟩ := Json.map_eq_ok_iff.1 <|
      (Json.field_optional 1 TextDocumentSyncKind.decode hchange fun _ ↦ nofun).2
        fun kind _ ↦ TextDocumentSyncKind.decode_json kind
    simp only [record, decodeOpenClose, decodeChange, ho, ho']
    show Except.ok (TextDocumentSyncOptions.mk o.join o'.join) = _
    rw [hjoin, hjoin']

/-- The options are decoded alike in either spelling. -/
theorem respects : Respects codec.decode codec.shape :=
  record_fields.respects_decode

end TextDocumentSyncOptions

namespace TextDocumentSync

/-- A kind, or options. -/
def codec : Codec TextDocumentSync :=
  ⟨decode, json, .object TextDocumentSyncOptions.fields, fun _ ↦ []⟩

/-- An object is no kind. -/
theorem decode_kind_object (ms : Members) :
    (TextDocumentSyncKind.decode (.object ms)).toOption = none := rfl

/-- A way to synchronise, be it a kind or options, is decoded from what it is written as. -/
theorem lawful : codec.Lawful fun _ ↦ True := by
  refine Codec.lawful_of_kept_eq_nil (fun _ ↦ rfl) (fun sync ↦ ?_) fun sync ↦ ?_
  · show decode sync.json.sorted = .ok sync
    cases sync with
    | kind kind => cases kind <;> rfl
    | options options =>
      have hdecode : TextDocumentSyncOptions.record.decode options.json.sorted = .ok options :=
        TextDocumentSyncOptions.lawful.decode_json (fun _ ↦ rfl) options
      rw [decode, Json.decodeEither, json, hdecode, TextDocumentSyncOptions.json,
        Json.sorted_object]
      rfl
  · cases sync with
    | kind kind =>
      refine ⟨trivial, ?_⟩
      show (Shape.object TextDocumentSyncOptions.fields).IsCamelCase kind.json
      rw [Shape.IsCamelCase]
      rintro _ ⟨⟩
    | options options => exact TextDocumentSyncOptions.lawful.isTidy trivial

/-- A way to synchronise is decoded alike in either spelling. -/
theorem respects : Respects codec.decode codec.shape :=
  .decodeEither ((Json.respects_of_object decode_kind_object _).map _)
    (TextDocumentSyncOptions.respects.map _) _

end TextDocumentSync

/-! ### Completing code -/

namespace CompletionOptions

/-- The modelled members of the options. -/
def fields : List (Field × Shape) :=
  [(resolveProviderField, .free), (triggerCharactersField, .free)]

/-- The options are an object of two members. -/
def codec : Codec CompletionOptions :=
  ⟨record.decode, json, .object fields, fun _ ↦ []⟩

theorem record_fields : record.Fields fields :=
  Json.Record.fields_two
    ⟨by decide, Field.capital_ofList _ _ _, Field.capital_ofList _ _ _⟩
    rfl (fun _ ↦ rfl) (Json.respects_free _) (Json.respects_free _)

/-- The values that are written. -/
def entries (options : CompletionOptions) : List (Field × Option Json) :=
  [(resolveProviderField, some (.bool options.resolveProvider)),
    (triggerCharactersField, stringsValue options.triggerCharacters)]

theorem json_eq (options : CompletionOptions) :
    options.json = .object (Json.written options.entries []) := by
  rw [json, entries, Json.written_cons, Json.written_cons, Json.written_nil, List.append_nil,
    stringsMember_eq]
  rfl

/-- Options for completion are decoded from what they are written as. -/
theorem lawful : codec.Lawful fun _ ↦ True := by
  refine Codec.lawful_of_record record_fields json_eq
    (fun options ↦ .cons ⟨rfl, ?_⟩ (.cons ⟨rfl, isTidy_strings _⟩ .nil)) fun options ms h ↦ ?_
  · rintro _ ⟨⟩
    exact isTidy_bool _
  · obtain ⟨hresolve, hrest⟩ := List.forall_mem_cons.1 h
    have hstrings := hrest _ List.mem_cons_self
    obtain ⟨o, ho, hflag⟩ := field_flag 0 hresolve
    obtain ⟨o', ho', hlist⟩ := field_strings 1 hstrings
    simp only [record, ho, ho']
    show Except.ok (CompletionOptions.mk (o.getD false) (o'.getD [])) = _
    rw [hflag, hlist]

theorem respects : Respects codec.decode codec.shape :=
  record_fields.respects_decode

end CompletionOptions

/-! ### Helping with signatures -/

namespace SignatureHelpOptions

/-- The modelled members of the options. -/
def fields : List (Field × Shape) :=
  [(triggerCharactersField, .free)]

/-- The options are an object of one member. -/
def codec : Codec SignatureHelpOptions :=
  ⟨record.decode, json, .object fields, fun _ ↦ []⟩

theorem record_fields : record.Fields fields :=
  Json.Record.fields_one ⟨by decide, Field.capital_ofList _ _ _⟩ rfl (fun _ ↦ rfl)
    (Json.respects_free _)

/-- The values that are written. -/
def entries (options : SignatureHelpOptions) : List (Field × Option Json) :=
  [(triggerCharactersField, stringsValue options.triggerCharacters)]

theorem json_eq (options : SignatureHelpOptions) :
    options.json = .object (Json.written options.entries []) := by
  rw [json, entries, Json.written_cons, Json.written_nil, List.append_nil, stringsMember_eq]
  rfl

/-- Options for help with signatures are decoded from what they are written as. -/
theorem lawful : codec.Lawful fun _ ↦ True := by
  refine Codec.lawful_of_record record_fields json_eq
    (fun options ↦ .cons ⟨rfl, isTidy_strings _⟩ .nil) fun options ms h ↦ ?_
  obtain ⟨o, ho, hlist⟩ := field_strings 0 (h _ List.mem_cons_self)
  simp only [record, ho]
  show Except.ok (SignatureHelpOptions.mk (o.getD [])) = _
  rw [hlist]

theorem respects : Respects codec.decode codec.shape :=
  record_fields.respects_decode

end SignatureHelpOptions

/-! ### Commands among the lines of code -/

namespace CodeLensOptions

/-- The modelled members of the options. -/
def fields : List (Field × Shape) :=
  [(resolveProviderField, .free)]

/-- The options are an object of one member. -/
def codec : Codec CodeLensOptions :=
  ⟨record.decode, json, .object fields, fun _ ↦ []⟩

theorem record_fields : record.Fields fields :=
  Json.Record.fields_one ⟨by decide, Field.capital_ofList _ _ _⟩ rfl (fun _ ↦ rfl)
    (Json.respects_free _)

/-- The values that are written. -/
def entries (options : CodeLensOptions) : List (Field × Option Json) :=
  [(resolveProviderField, some (.bool options.resolveProvider))]

theorem json_eq (options : CodeLensOptions) :
    options.json = .object (Json.written options.entries []) := rfl

/-- Options for code lenses are decoded from what they are written as. -/
theorem lawful : codec.Lawful fun _ ↦ True := by
  refine Codec.lawful_of_record record_fields json_eq
    (fun options ↦ .cons ⟨rfl, ?_⟩ .nil) fun options ms h ↦ ?_
  · rintro _ ⟨⟩
    exact isTidy_bool _
  · obtain ⟨o, ho, hflag⟩ := field_flag 0 (h _ List.mem_cons_self)
    simp only [record, ho]
    show Except.ok (CodeLensOptions.mk (o.getD false)) = _
    rw [hflag]

theorem respects : Respects codec.decode codec.shape :=
  record_fields.respects_decode

end CodeLensOptions

/-! ### Formatting code as it is typed -/

namespace DocumentOnTypeFormattingOptions

/-- The modelled members of the options. -/
def fields : List (Field × Shape) :=
  [(firstTriggerCharacterField, .free), (moreTriggerCharacterField, .free)]

/-- The options are an object of two members. -/
def codec : Codec DocumentOnTypeFormattingOptions :=
  ⟨record.decode, json, .object fields, fun _ ↦ []⟩

theorem record_fields : record.Fields fields :=
  Json.Record.fields_two
    ⟨by decide, Field.capital_ofList _ _ _, Field.capital_ofList _ _ _⟩
    rfl (fun _ ↦ rfl) (Json.respects_free _) (Json.respects_free _)

/-- The values that are written. -/
def entries (options : DocumentOnTypeFormattingOptions) : List (Field × Option Json) :=
  [(firstTriggerCharacterField, some (.string options.firstTriggerCharacter)),
    (moreTriggerCharacterField, stringsValue options.moreTriggerCharacter)]

theorem json_eq (options : DocumentOnTypeFormattingOptions) :
    options.json = .object (Json.written options.entries []) := by
  rw [json, entries, Json.written_cons, Json.written_cons, Json.written_nil, List.append_nil,
    stringsMember_eq]
  rfl

/-- Options for formatting on typing are decoded from what they are written as. -/
theorem lawful : codec.Lawful fun _ ↦ True := by
  refine Codec.lawful_of_record record_fields json_eq
    (fun options ↦ .cons ⟨rfl, ?_⟩ (.cons ⟨rfl, isTidy_strings _⟩ .nil)) fun options ms h ↦ ?_
  · rintro _ ⟨⟩
    exact isTidy_free trivial
  · obtain ⟨hfirst, hrest⟩ := List.forall_mem_cons.1 h
    obtain ⟨o, ho, htext⟩ := field_text 0 hfirst
    obtain ⟨o', ho', hlist⟩ := field_strings 1 (hrest _ List.mem_cons_self)
    simp only [record, ho, ho']
    show Except.ok (DocumentOnTypeFormattingOptions.mk (o.getD "") (o'.getD [])) = _
    rw [htext, hlist]

theorem respects : Respects codec.decode codec.shape :=
  record_fields.respects_decode

end DocumentOnTypeFormattingOptions

/-! ### The hint in a refusal -/

namespace InitializeError

/-- The modelled members of the hint. -/
def fields : List (Field × Shape) :=
  [(retryField, .free)]

/-- The hint is an object of one member. -/
def codec : Codec InitializeError :=
  ⟨record.decode, json, .object fields, fun _ ↦ []⟩

theorem record_fields : record.Fields fields :=
  Json.Record.fields_one ⟨by decide, Field.capital_ofList _ _ _⟩ rfl (fun _ ↦ rfl)
    (Json.respects_free _)

/-- The values that are written. -/
def entries (e : InitializeError) : List (Field × Option Json) :=
  [(retryField, some (.bool e.retry))]

theorem json_eq (e : InitializeError) : e.json = .object (Json.written e.entries []) := rfl

/-- The hint in a refusal is decoded from what it is written as. -/
theorem lawful : codec.Lawful fun _ ↦ True := by
  refine Codec.lawful_of_record record_fields json_eq
    (fun e ↦ .cons ⟨rfl, ?_⟩ .nil) fun e ms h ↦ ?_
  · rintro _ ⟨⟩
    exact isTidy_bool _
  · have hfield : (Json.Source.members ms).field 0 retryField Json.decodeBool =
        .ok (some e.retry) :=
      Json.field_of_occurrences_singleton (h _ List.mem_cons_self) 0 _
    simp only [record, hfield]
    rfl

/-- The hint is decoded alike in either spelling. -/
theorem respects : Respects codec.decode codec.shape :=
  record_fields.respects_decode

end InitializeError

end LspClient.Lsp
