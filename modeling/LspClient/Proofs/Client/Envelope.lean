import LspClient.Proofs.Client.Invocation
import LspClient.Proofs.Json.RoundTrip
import LspClient.Transport.Replay

/-!
# Envelopes

What a server can make of the text that a client sends. An envelope has the version of the protocol,
the id of a request, the method, and the params if there are any (`envelopeMembers`).

* Its text says these members and has no character below U+0020, and a server that reads it gets
  exactly these members if it has room for the params: they are not nested too deep, and no object
  in them begins with a member of the reserved name (`exists_read_envelopeText_iff`).
* A client sends the text of one envelope for each action that passes validation, and its params are
  what the caller passed, as the style has it (`IsEncoded`). They are canonical
  (`Payload.isCanonical_of_toJson`), so they come back as they were passed.
-/

namespace LspClient

open Transport

/-! ### What an envelope says -/

section

variable (id : Option Id) (method : String) (params : Option Json)

/-- The members of an envelope: those of a request if there is an id, otherwise those of a
notification. -/
def envelopeMembers : Json.Members :=
  ("jsonrpc", protocolVersion) :: (id.toList.map (fun id ↦ ("id", id.json)) ++
    (("method", .string method) :: paramsMember params))

/-- The text of an envelope: a request if there is an id, otherwise a notification. -/
def envelopeText : String :=
  match id with
  | some id => RequestEnvelope.text ⟨id, method, params⟩
  | none => NotificationEnvelope.text ⟨method, params⟩

theorem envelopeText_eq :
    envelopeText id method params = (Json.object (envelopeMembers id method params)).text := by
  cases id <;> rfl

/-- The members have four names, in this order; that of the id or of the params may be missing. -/
theorem sublist_map_fst_envelopeMembers :
    ((envelopeMembers id method params).map Prod.fst).Sublist
      ["jsonrpc", "id", "method", "params"] := by
  cases id <;> cases params <;> exact List.isSublist_iff_sublist.1 rfl

theorem nodup_map_fst_envelopeMembers :
    ((envelopeMembers id method params).map Prod.fst).Nodup :=
  List.Nodup.sublist (sublist_map_fst_envelopeMembers id method params) (by decide)

/-- The first member is never the reserved one. -/
theorem firstFits_envelopeMembers : Json.FirstFits true (envelopeMembers id method params) := by
  rintro - m hm
  obtain rfl := Option.some.inj hm
  decide

variable {id method params}

/-- What holds of strings and of numbers holds of every member if it holds of the params. An id
that is `null` counts as one of them. -/
theorem forall_mem_envelopeMembers {P : Json → Prop} (hstring : ∀ s, P (.string s))
    (hid : ∀ id : Id, P id.json) :
    (∀ m ∈ envelopeMembers id method params, P m.2) ↔ ∀ p ∈ params, P p := by
  have hparams : (∀ m ∈ paramsMember params, P m.2) ↔ ∀ p ∈ params, P p := by
    cases params <;> simp [paramsMember]
  have hids : ∀ m ∈ id.toList.map (fun id ↦ ("id", id.json)), P m.2 := fun m hm ↦ by
    obtain ⟨id, -, rfl⟩ := List.mem_map.1 hm
    exact hid id
  rw [envelopeMembers, List.forall_mem_cons, List.forall_mem_append, List.forall_mem_cons, hparams]
  exact ⟨fun h ↦ h.2.2.2, fun h ↦ ⟨hstring "2.0", hids, hstring method, h⟩⟩

/-- The text of an envelope has no control characters. -/
theorem le_of_mem_envelopeText {c : Char} (h : c ∈ (envelopeText id method params).toList) :
    0x20 ≤ c.toNat := by
  rw [envelopeText_eq, Json.text, String.toList_ofList] at h
  exact Json.le_of_mem_print _ c h

/-- The text of an envelope says its members, if the numbers in its params are integers. -/
theorem isTextOf_envelopeText (h : ∀ p ∈ params, p.IsIntegral) :
    Json.IsTextOf (envelopeText id method params).toList
      (.object (envelopeMembers id method params)) := by
  have hmembers : ∀ m ∈ envelopeMembers id method params, m.2.IsIntegral :=
    (forall_mem_envelopeMembers (fun _ ↦ trivial) fun id ↦ by cases id <;> trivial).2 h
  rw [envelopeText_eq]
  exact Json.isTextOf_text (Json.all_object.2 ⟨trivial, hmembers⟩)

/-- **A server that reads an envelope gets its members exactly if it has room for the params.** -/
theorem exists_read_envelopeText_iff (h : ∀ p ∈ params, p.IsIntegral)
    (hcanonical : ∀ p ∈ params, p.IsCanonical) :
    (∃ ms, Json.read (envelopeText id method params) = .ok (.object ms) ∧
        ms.Perm (envelopeMembers id method params)) ↔
      ∀ p ∈ params, p.IsPlain ∧ p.depth ≤ Json.innerDepth := by
  have hmembers : ∀ m ∈ envelopeMembers id method params, m.2.IsCanonical :=
    (forall_mem_envelopeMembers (fun _ ↦ trivial) fun id ↦ by cases id <;> trivial).2 hcanonical
  have hroom := @forall_mem_envelopeMembers id method params
    (fun v ↦ v.IsPlain ∧ v.depth ≤ Json.innerDepth) (fun _ ↦ ⟨trivial, Nat.zero_le _⟩)
    fun id ↦ by cases id <;> exact ⟨trivial, Nat.zero_le _⟩
  exact (Json.exists_read_eq_object_iff (isTextOf_envelopeText h)
    (nodup_map_fst_envelopeMembers id method params) hmembers
    (firstFits_envelopeMembers id method params)).trans hroom

end

/-! ### Params as they are passed -/

namespace Payload

/-- A collected object of canonical values is canonical. -/
theorem isCanonical_collect {ms : Json.Members} (h : ∀ m ∈ ms, m.2.IsCanonical) :
    (Json.object (Json.collect ms)).IsCanonical :=
  Json.isCanonical_object.2
    ⟨Json.pairwise_collect ms, fun m hm ↦ h m (Json.mem_of_mem_collect hm)⟩

mutual

/-- The JSON form of a payload is canonical. -/
theorem isCanonical_of_toJson : ∀ {p : Payload} {v : Json}, p.toJson = .ok v → v.IsCanonical
  | .json v, _, h => by
    rw [toJson] at h
    obtain rfl := Except.ok.inj h
    exact Json.isCanonical_sorted v
  | .int i, v, h => by
    rw [toJson, ofInt] at h
    split at h
    · obtain rfl := Except.ok.inj h
      trivial
    · cases h
  | .nothing, _, h | .bool _, _, h | .float none, _, h | .float (some _), _, h | .char _, _, h
  | .string _, _, h => by
    rw [toJson] at h
    obtain rfl := Except.ok.inj h
    trivial
  | .sequence xs, v, h => by
    rw [toJson] at h
    obtain ⟨ys, hys, rfl⟩ := Json.exists_of_map_eq_ok h
    exact Json.isCanonical_array.2 (isCanonical_of_sequenceToJson hys)
  | .map entries, v, h => by
    rw [toJson] at h
    obtain ⟨ms, hms, rfl⟩ := Json.exists_of_map_eq_ok h
    exact isCanonical_collect (isCanonical_of_mapToJson hms)
  | .record fields, v, h => by
    rw [toJson] at h
    obtain ⟨ms, hms, rfl⟩ := Json.exists_of_map_eq_ok h
    exact isCanonical_collect (isCanonical_of_recordToJson hms)
  | .refusing reason, _, h => by
    rw [toJson] at h
    cases h

theorem isCanonical_of_sequenceToJson : ∀ {xs : List Payload} {ys : List Json},
    sequenceToJson xs = .ok ys → ∀ y ∈ ys, y.IsCanonical
  | [], ys, h => by
    rw [sequenceToJson] at h
    obtain rfl := Except.ok.inj h
    exact List.forall_mem_nil _
  | x :: xs, ys, h => by
    rw [sequenceToJson] at h
    split at h
    case h_1 => cases h
    case h_2 v hv =>
      obtain ⟨ys, hys, rfl⟩ := Json.exists_of_map_eq_ok h
      exact List.forall_mem_cons.2 ⟨isCanonical_of_toJson hv, isCanonical_of_sequenceToJson hys⟩

theorem isCanonical_of_mapToJson : ∀ {entries : List (Payload × Payload)} {ms : Json.Members},
    mapToJson entries = .ok ms → ∀ m ∈ ms, m.2.IsCanonical
  | [], ms, h => by
    rw [mapToJson] at h
    obtain rfl := Except.ok.inj h
    exact List.forall_mem_nil _
  | (k, x) :: entries, ms, h => by
    rw [mapToJson] at h
    split at h
    case h_1 => cases h
    case h_2 name hname =>
      split at h
      case h_1 => cases h
      case h_2 v hv =>
        obtain ⟨ms, hms, rfl⟩ := Json.exists_of_map_eq_ok h
        exact List.forall_mem_cons.2 ⟨isCanonical_of_toJson hv, isCanonical_of_mapToJson hms⟩

theorem isCanonical_of_recordToJson : ∀ {fields : List (String × Payload)} {ms : Json.Members},
    recordToJson fields = .ok ms → ∀ m ∈ ms, m.2.IsCanonical
  | [], ms, h => by
    rw [recordToJson] at h
    obtain rfl := Except.ok.inj h
    exact List.forall_mem_nil _
  | (name, x) :: fields, ms, h => by
    rw [recordToJson] at h
    split at h
    case h_1 => cases h
    case h_2 v hv =>
      obtain ⟨ms, hms, rfl⟩ := Json.exists_of_map_eq_ok h
      exact List.forall_mem_cons.2 ⟨isCanonical_of_toJson hv, isCanonical_of_recordToJson hms⟩

end

end Payload

/-- How the params of an envelope come from the value that a caller passes. -/
structure IsEncoded (style : ParamsStyle) (p : Json) (params : Option Json) : Prop where
  /-- Only `null` leaves no params. -/
  none_iff : params = none ↔ p = .null
  /-- By name the value is sent as it is. -/
  byName : style = .byName → p ≠ .null → params = some p
  /-- So is an array. -/
  array : style = .positional → ∀ xs, p = .array xs → params = some (.array xs)
  /-- Any other value is sent as the only element of an array. -/
  wrapped : style = .positional → p ≠ .null → (∀ xs, p ≠ .array xs) → params = some (.array [p])

theorem isEncoded_encode (style : ParamsStyle) (p : Json) : IsEncoded style p (style.encode p) := by
  cases style with
  | byName =>
    cases p with
    | null => exact ⟨iff_of_true rfl rfl, fun _ h ↦ absurd rfl h, nofun, nofun⟩
    | bool | number | string | array | object =>
      exact ⟨iff_of_false nofun nofun, fun _ _ ↦ rfl, nofun, nofun⟩
  | positional =>
    cases p with
    | null => exact ⟨iff_of_true rfl rfl, nofun, nofun, fun _ h ↦ absurd rfl h⟩
    | array xs =>
      exact ⟨iff_of_false nofun nofun, nofun, fun _ _ h ↦ congrArg some h,
        fun _ _ h ↦ absurd rfl (h xs)⟩
    | bool | number | string | object =>
      exact ⟨iff_of_false nofun nofun, nofun, nofun, fun _ _ _ ↦ rfl⟩

/-- Encoding keeps a canonical value canonical. -/
theorem isCanonical_of_mem_encode {style : ParamsStyle} {p q : Json} (h : p.IsCanonical)
    (hq : q ∈ style.encode p) : q.IsCanonical := by
  have hencoded : q = p ∨ q = .array [p] := by
    cases style <;> cases p <;> simp_all [ParamsStyle.encode]
  rcases hencoded with rfl | rfl
  · exact h
  · exact Json.isCanonical_array.2 (List.forall_mem_singleton.2 h)

/-! ### What is sent -/

namespace Client

variable {σ : Type} [Transport σ]

/-- A recorded client asks one operation for an action in order, whatever comes of it. -/
theorem asked_of_toJson (c : Client σ) {a : Action} {p : Json}
    (hmethod : Text.trim a.method.toList ≠ []) (hparams : a.params.toJson = .ok p) :
    (c.recorded.act a).client.transport.asked =
      [a.operation c.drawId.1 (c.paramsStyle.encode p)] := by
  have hid : c.recorded.drawId.1 = c.drawId.1 :=
    (congrArg Prod.fst (drawId_forget c.recorded)).symm
  have hasks : c.recorded.asks? a = some (a.operation c.drawId.1 (c.paramsStyle.encode p)) := by
    rw [asks?, if_neg hmethod, hparams, hid]
    rfl
  rw [act_asked, hasks]
  rfl

/-- **A server can recover what is sent.**

* The text of an envelope has no character below U+0020. If the numbers in its params are integers,
  it says the members of the envelope, and reading it brings exactly these members unless the params
  are nested too deep or an object in them begins with the reserved name.
* For an action in order a client sends the text of one envelope, with the id that was drawn for it
  if it is a call. Its params are what the caller passed, as the style has it, and canonical.
  Keeping a record of what is sent makes no difference to what comes of the action. -/
theorem envelope_recovered (c : Client σ) (id : Option Id) (method : String)
    (params : Option Json) :
    (∀ ch ∈ (envelopeText id method params).toList, 0x20 ≤ ch.toNat) ∧
    ((∀ p ∈ params, p.IsIntegral ∧ p.IsCanonical) →
      Json.IsTextOf (envelopeText id method params).toList
        (.object (envelopeMembers id method params)) ∧
      ((∃ ms, Json.read (envelopeText id method params) = .ok (.object ms) ∧
          ms.Perm (envelopeMembers id method params)) ↔
        ∀ p ∈ params, p.IsPlain ∧ p.depth ≤ Json.innerDepth)) ∧
    ∀ (a : Action) (p : Json), Text.trim a.method.toList ≠ [] → a.params.toJson = .ok p →
      (c.recorded.act a).forget = c.act a ∧
        ∃ sent, IsEncoded c.paramsStyle p sent ∧ (∀ q ∈ sent, q.IsCanonical) ∧
          (c.recorded.act a).client.transport.asked =
            [if a.isCall then .request (envelopeText (some c.drawId.1) a.method sent)
              else .notify (envelopeText none a.method sent)] := by
  refine ⟨fun _ ↦ le_of_mem_envelopeText, fun h ↦ ?_,
    fun a p hmethod hparams ↦ ⟨act_forget c.recorded a, c.paramsStyle.encode p,
      isEncoded_encode _ p, ?_, asked_of_toJson c hmethod hparams⟩⟩
  · have hintegral : ∀ p ∈ params, p.IsIntegral := fun p hp ↦ (h p hp).1
    exact ⟨isTextOf_envelopeText hintegral,
      exists_read_envelopeText_iff hintegral fun p hp ↦ (h p hp).2⟩
  · intro q hq
    exact isCanonical_of_mem_encode (Payload.isCanonical_of_toJson hparams) hq

/-- Params with an empty array, strings to be escaped and the greatest and the least integer. -/
def escapedParams : Json :=
  .object [("\n", .string "\x00é\""), ("\\", .array [.ofNat 18446744073709551615,
    .number (.negative ⟨9223372036854775807, by decide⟩), .array []])]

/-- A client whose ids have to be escaped. -/
def escaping : Client Replay where
  transport := { replies := [] }
  uuids _ := "\t"

/-- These params are recovered, from a request whose id and method have to be escaped as well. -/
theorem envelope_recovered_escaped :
    let params := some (.array [escapedParams])
    let text := envelopeText (some (.string "\t")) "a\"\\\r" params
    escapedParams.IsIntegral ∧ escapedParams.IsCanonical ∧
      (∃ ms, Json.read text = .ok (.object ms) ∧
        ms.Perm (envelopeMembers (some (.string "\t")) "a\"\\\r" params)) ∧
      Text.trim "a\"\\\r".toList ≠ [] ∧ (Payload.json escapedParams).toJson = .ok escapedParams ∧
      (escaping.recorded.act (.call "a\"\\\r" (.json escapedParams))).client.transport.asked =
        [.request text] := by
  intro params text
  have hintegral : escapedParams.IsIntegral :=
    ⟨trivial, trivial, ⟨trivial, trivial, trivial, ⟨trivial, trivial⟩, trivial⟩, trivial⟩
  have hcanonical : escapedParams.IsCanonical :=
    ⟨by decide, trivial, ⟨trivial, trivial, trivial, ⟨trivial, trivial⟩, trivial⟩, trivial⟩
  have hplain : escapedParams.IsPlain :=
    ⟨by decide, trivial, ⟨trivial, trivial, trivial, ⟨trivial, trivial⟩, trivial⟩, trivial⟩
  have hmethod : Text.trim "a\"\\\r".toList ≠ [] := by decide
  have hjson : (Payload.json escapedParams).toJson = .ok escapedParams := by
    rw [Payload.toJson, hcanonical.sorted_eq]
  obtain ⟨-, htext, hsend⟩ :=
    envelope_recovered escaping (some (.string "\t")) "a\"\\\r" params
  obtain ⟨-, hback⟩ := htext fun p hp ↦ by
    obtain rfl := Option.some.inj hp
    exact ⟨⟨trivial, hintegral, trivial⟩, ⟨trivial, hcanonical, trivial⟩⟩
  have hroom : ∀ p ∈ params, p.IsPlain ∧ p.depth ≤ Json.innerDepth := fun p hp ↦ by
    obtain rfl := Option.some.inj hp
    exact ⟨⟨trivial, hplain, trivial⟩, by decide⟩
  obtain ⟨-, sent, hencoded, -, hasked⟩ :=
    hsend (.call "a\"\\\r" (.json escapedParams)) escapedParams hmethod hjson
  obtain rfl : sent = params := hencoded.wrapped rfl nofun nofun
  exact ⟨hintegral, hcanonical, hback.2 hroom, hmethod, hjson, hasked⟩

/-- Params whose only object begins with the reserved name. -/
theorem reserved_not_recovered :
    let p : Json := .object [("$serde_json::private::RawValue", .string "5"), ("z", .ofNat 1)]
    p.IsIntegral ∧ p.IsCanonical ∧ p.depth ≤ Json.innerDepth ∧
      ¬∃ ms, Json.read (envelopeText (some (.number 1)) "m" (some p)) = .ok (.object ms) ∧
        ms.Perm (envelopeMembers (some (.number 1)) "m" (some p)) := by
  intro p
  have hintegral : p.IsIntegral := ⟨trivial, trivial, trivial, trivial⟩
  have hcanonical : p.IsCanonical := ⟨by decide, trivial, trivial, trivial⟩
  refine ⟨hintegral, hcanonical, by decide, fun hread ↦ ?_⟩
  have hroom := (exists_read_envelopeText_iff (by rintro _ ⟨⟩; exact hintegral)
    (by rintro _ ⟨⟩; exact hcanonical)).1 hread
  exact (hroom p rfl).1.1 rfl

end Client

end LspClient
