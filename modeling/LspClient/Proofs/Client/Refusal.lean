import LspClient.Proofs.Client.Verdict
import LspClient.Proofs.Message.ErrorData
import LspClient.Proofs.Payload.Forms

/-!
# The refusal of a handshake

A server that refuses the handshake can say in the data of its error whether the client should try
again. Data come out of the response as they were attached exactly if they are plain and not nested
too deep (`RemoteError.HasData.data_ofJson_eq_some_iff`). The hint is decoded from an object exactly
if it is missing or a truth value, in one spelling at most (`exists_decode_iff`), and it is then
what the object says (`retry_of_decode`). Other than in the answer to the handshake, `null` does not
count as missing here.
-/

namespace LspClient

open Json (IsTextOf Members OrNull)

/-! ### Errors in texts -/

namespace Response

variable {body : String} {v : Json} {ms : Members}

/-- The error of a response is the one that its text says. -/
theorem BringsError.member?_eq (h : BringsError body ms) (htext : IsTextOf body.toList v)
    (hroom : ∀ m ∈ fields v, HasRoom m) :
    (member? "error" (fields v)).map Json.sorted = some (.object ms) := by
  obtain ⟨parts, hread, herror⟩ := h
  obtain ⟨-, hparts⟩ := (read_of_isTextOf htext hroom).1 parts (by rw [hread]; rfl)
  rw [hparts.error_join] at herror
  obtain ⟨w, hw, hsome⟩ := Option.bind_eq_some_iff.1 herror
  rw [hw]
  cases w <;> cases hsome
  rfl

/-- A text with an error and no result is a response with this error. -/
theorem bringsError_of_isTextOf (htext : IsTextOf body.toList v)
    (hroom : ∀ m ∈ fields v, HasRoom m) (hform : HasForm v)
    (herror : (member? "error" (fields v)).map Json.sorted = some (.object ms))
    (hresult : member? "result" (fields v) = none) :
    BringsError body ms ∧ ∃ response, parse body = .ok response := by
  obtain ⟨hok, hnone⟩ := read_of_isTextOf htext hroom
  cases hread : record.read body.toList with
  | error fault =>
    rw [hread] at hnone
    exact absurd hform (hnone rfl)
  | ok parts =>
    rw [hread] at hok
    obtain ⟨-, hparts⟩ := hok parts rfl
    have hjoin : parts.error.join = some (.object ms) := by
      rw [hparts.error_join, herror]
      rfl
    have hmissing : parts.result = none := by
      rw [hparts.result_eq, hresult]
      rfl
    refine ⟨⟨parts, hread, hjoin⟩, ⟨parts.id.getD .null, .error (.ofJson (.object ms))⟩, ?_⟩
    rw [parse, hread]
    simp only [Parts.response, hjoin, hmissing]

/-- A reader that has room for the error can read its members again. -/
theorem BringsError.depth_le (h : BringsError body ms) (htext : IsTextOf body.toList v)
    (hroom : ∀ m ∈ fields v, HasRoom m) : ∀ m ∈ ms, m.2.depth ≤ Json.greatestDepth := by
  obtain ⟨w, hw, hsorted⟩ := Option.map_eq_some_iff.1 (h.member?_eq htext hroom)
  obtain ⟨m, hm, rfl⟩ := List.mem_map.1 (List.mem_of_head? hw)
  obtain ⟨hm, hname⟩ := List.mem_filter.1 hm
  have hcounts : m.1 ∈ names := by
    rw [of_decide_eq_true hname]
    decide
  have hdepth : m.2.depth ≤ Json.greatestDepth + 1 :=
    Nat.le_trans (hroom m hm hcounts).depth_le (by decide)
  exact Json.depth_object_le.1 (hsorted ▸ Json.depth_sorted_le hdepth)

end Response

namespace Lsp.InitializeError

variable {d : Members} {hint : InitializeError}

/-! ### The hint -/

theorem spells_iff {name : String} : retryField.spells name = true ↔ retryField.IsSpelling name :=
  record_fields.capitalised.spells_iff List.mem_cons_self

theorem decode_object_eq_ok_iff : record.decode (.object d) = .ok hint ↔
    ∃ o, (Json.Source.members d).field 0 retryField Json.decodeBool = .ok o ∧
      ⟨o.getD false⟩ = hint := by
  rw [← Json.map_eq_ok_iff]
  exact record_fields.asks.ofMembers_eq_ok_iff

/-- The hint is decoded from members that do not give it in both spellings, and give it a truth
value if they give it at all. -/
theorem exists_decode_iff (hunique : Json.HasUniqueNames (.object d)) :
    (∃ hint, record.decode (.object d) = .ok hint) ↔
      ¬retryField.IsTwice d ∧ ∀ m ∈ d, retryField.IsSpelling m.1 → IsFlag m.2 := by
  have hcapital : retryField.IsCapitalised := record_fields.isCapitalised _ List.mem_cons_self
  rw [← @Json.exists_field_members_iff _ _ _ _ _ 0 hcapital hunique takes_bool]
  simp only [decode_object_eq_ok_iff]
  exact ⟨fun ⟨_, o, ho, _⟩ ↦ ⟨o, ho⟩, fun ⟨o, ho⟩ ↦ ⟨_, o, ho, rfl⟩⟩

/-- The client should try again exactly if the members say so. -/
theorem retry_of_decode (h : record.decode (.object d) = .ok hint) :
    hint.retry = true ↔ ∃ m ∈ d, retryField.IsSpelling m.1 ∧ m.2 = .bool true := by
  have hfound : (∃ m ∈ d, retryField.IsSpelling m.1 ∧ m.2 = .bool true) ↔
      .bool true ∈ retryField.occurrences d := by
    simp only [Json.Field.mem_occurrences, spells_iff]
  obtain ⟨o, ho, rfl⟩ := decode_object_eq_ok_iff.1 h
  rw [hfound]
  rcases Json.field_members_eq_ok_iff.1 ho with ⟨hnil, rfl⟩ | ⟨v, b, hone, hv, rfl⟩
  · simp [hnil]
  · obtain rfl : v = .bool b := by
      cases v <;> cases hv
      rfl
    simp [hone, eq_comm]

/-- **What comes of the hint that a server attaches to its refusal.** The response is accepted and
has an error object with a code, a message and data; the data are an object in which the numbers are
integers, with the hint in one spelling at most, `null` or a truth value if it is there.

* If the body is a text that the reader has room for, these are the error and the data that the text
  says, and the data are not nested too deep to be read again.
* The data come out as they were attached exactly if they are plain and not nested too deep.
* They are decoded exactly if the hint is not `null`, and the client should try again exactly if the
  hint is there and `true`. -/
theorem hint_of_parse {body : String} {response : Response} {ms : Members}
    (herror : Response.BringsError body ms) (hparse : Response.parse body = .ok response)
    (hdata : RemoteError.HasData ms (.object d)) (hintegral : Json.IsIntegral (.object d))
    (honce : ¬retryField.IsTwice d)
    (hvalue : ∀ m ∈ d, retryField.IsSpelling m.1 → OrNull IsFlag m.2) :
    (∀ v, IsTextOf body.toList v → (∀ m ∈ Response.fields v, Response.HasRoom m) →
      (Response.member? "error" (Response.fields v)).map Json.sorted = some (.object ms) ∧
        (Json.object d).depth ≤ Json.greatestDepth) ∧
    ∃ e, response.answer = .error e ∧
      (e.data = some (.object d) ↔
        Json.IsPlain (.object d) ∧ (Json.object d).depth ≤ Json.greatestDepth) ∧
      ((∃ hint, record.decode (.object d) = .ok hint) ↔
        ∀ m ∈ d, retryField.IsSpelling m.1 → m.2 ≠ .null) ∧
      ∀ hint, record.decode (.object d) = .ok hint →
        (hint.retry = true ↔ ∃ m ∈ d, retryField.IsSpelling m.1 ∧ m.2 = .bool true) := by
  have hcanonical := herror.isCanonical
  have hunique : Json.HasUniqueNames (.object d) :=
    ((Json.isCanonical_object.1 hcanonical).2 _ hdata.data).hasUniqueNames
  refine ⟨fun v htext hroom ↦ ⟨herror.member?_eq htext hroom, ?_⟩, _,
    herror.answer_of_parse hparse, ?_, ?_, fun _ ↦ retry_of_decode⟩
  · exact herror.depth_le htext hroom _ hdata.data
  · exact hdata.data_ofJson_eq_some_iff hcanonical herror.embedsNothing hintegral nofun
  · rw [exists_decode_iff hunique, and_iff_right honce]
    refine forall₂_congr fun m hm ↦ forall_congr' fun hname ↦ ?_
    rcases hvalue m hm hname with hnull | ⟨b, hb⟩
    · exact iff_of_false (by simp [hnull, IsFlag]) (absurd hnull)
    · exact iff_of_true ⟨b, hb⟩ (by simp [hb])

/-- A refusal whose error object has its members in another order and more of them, and whose hint
has a capital first letter and comes behind another member. -/
def refusal : Json :=
  .object [("error", .object [("more", .null), ("message", .string "m"),
    ("data", .object [("a", .array [.ofNat 1]), ("Retry", .bool true)]),
    ("code", .number (.negative ⟨32001, by decide⟩))]), ("id", .ofNat 1)]

/-- The data of that refusal as they are kept. -/
def refusalData : Members :=
  [("Retry", .bool true), ("a", .array [.ofNat 1])]

/-- The error of that refusal as it is kept. -/
def refusalError : Members :=
  [("code", .number (.negative ⟨32001, by decide⟩)), ("data", .object refusalData),
    ("message", .string "m"), ("more", .null)]

/-- The client is told to try again. -/
theorem hint_of_parse_refusal :
    Response.BringsError refusal.text refusalError ∧
      RemoteError.HasData refusalError (.object refusalData) ∧
      Json.IsIntegral (.object refusalData) ∧ ¬retryField.IsTwice refusalData ∧
      (∀ m ∈ refusalData, retryField.IsSpelling m.1 → OrNull IsFlag m.2) ∧
      ∃ response e hint, Response.parse refusal.text = .ok response ∧ response.answer = .error e ∧
        e.data = some (.object refusalData) ∧ record.decode (.object refusalData) = .ok hint ∧
        hint.retry = true := by
  have hplain : ∀ m ∈ Response.fields refusal, m.1 = "result" ∨ m.1 = "error" → m.2.IsPlain :=
    List.forall_mem_cons.2 ⟨fun _ ↦ ⟨by decide, trivial, trivial,
      ⟨by decide, ⟨trivial, trivial, trivial⟩, trivial, trivial⟩, trivial, trivial⟩,
      List.forall_mem_singleton.2 fun _ ↦ trivial⟩
  have htext : IsTextOf refusal.text.toList refusal :=
    Json.isTextOf_text ⟨trivial, ⟨trivial, trivial, trivial,
      ⟨trivial, ⟨trivial, trivial, trivial⟩, trivial, trivial⟩, trivial, trivial⟩, trivial, trivial⟩
  obtain ⟨hbrings, response, hparse⟩ := @Response.bringsError_of_isTextOf _ _ refusalError htext
    (Client.hasRoom_of_depth (by decide) hplain) ⟨by decide, by decide⟩ rfl rfl
  have hdata : RemoteError.HasData refusalError (.object refusalData) :=
    ⟨⟨_, _, List.mem_cons_self, rfl, by decide⟩, ⟨"m", by simp [refusalError]⟩,
      by simp [refusalError]⟩
  have hintegral : Json.IsIntegral (.object refusalData) :=
    ⟨trivial, trivial, ⟨trivial, trivial, trivial⟩, trivial⟩
  have honce : ¬retryField.IsTwice refusalData := fun htwice ↦ absurd htwice.1 (by decide)
  have hspells : retryField.IsSpelling "Retry" := by decide
  have hother : ¬retryField.IsSpelling "a" := by decide
  have hvalue : ∀ m ∈ refusalData, retryField.IsSpelling m.1 → OrNull IsFlag m.2 :=
    List.forall_mem_cons.2 ⟨fun _ ↦ .inr ⟨true, rfl⟩,
      List.forall_mem_singleton.2 fun hname ↦ absurd hname hother⟩
  obtain ⟨-, e, he, hkept, hdecodes, hretry⟩ :=
    hint_of_parse hbrings hparse hdata hintegral honce hvalue
  have hbegins : "Retry".toList ≠ Json.embeddedName := by decide
  have hroom : Json.IsPlain (.object refusalData) ∧
      (Json.object refusalData).depth ≤ Json.greatestDepth :=
    ⟨⟨hbegins, trivial, ⟨trivial, trivial, trivial⟩, trivial⟩, by decide⟩
  obtain ⟨hint, hhint⟩ := hdecodes.2 (List.forall_mem_cons.2 ⟨fun _ ↦ nofun,
    List.forall_mem_singleton.2 fun _ ↦ nofun⟩)
  exact ⟨hbrings, hdata, hintegral, honce, hvalue, response, e, hint, hparse, he, hkept.2 hroom,
    hhint, (hretry hint hhint).2 ⟨_, List.mem_cons_self, hspells, rfl⟩⟩

/-- A refusal whose hint is `null`. -/
def unsaid : Json :=
  .object [("error", .object [("code", .ofNat 1), ("data", .object [("retry", .null)]),
    ("message", .string "m")])]

/-- The data of that refusal come out, but are not decoded. -/
theorem decode_ne_ok_unsaid :
    let d : Members := [("retry", .null)]
    ∃ ms response e, Response.BringsError unsaid.text ms ∧
      Response.parse unsaid.text = .ok response ∧ RemoteError.HasData ms (.object d) ∧
      Json.IsIntegral (.object d) ∧ ¬retryField.IsTwice d ∧
      (∀ m ∈ d, retryField.IsSpelling m.1 → OrNull IsFlag m.2) ∧ response.answer = .error e ∧
      e.data = some (.object d) ∧ ∀ hint, record.decode (.object d) ≠ .ok hint := by
  intro d
  have hplain : ∀ m ∈ Response.fields unsaid, m.1 = "result" ∨ m.1 = "error" → m.2.IsPlain :=
    List.forall_mem_singleton.2 fun _ ↦
      ⟨by decide, trivial, ⟨by decide, trivial, trivial⟩, trivial, trivial⟩
  have htext : IsTextOf unsaid.text.toList unsaid :=
    Json.isTextOf_text
      ⟨trivial, ⟨trivial, trivial, ⟨trivial, trivial, trivial⟩, trivial, trivial⟩, trivial⟩
  obtain ⟨hbrings, response, hparse⟩ := @Response.bringsError_of_isTextOf _ _
    [("code", .ofNat 1), ("data", .object d), ("message", .string "m")] htext
    (Client.hasRoom_of_depth (by decide) hplain) ⟨by decide, by decide⟩ rfl rfl
  have hdata : RemoteError.HasData [("code", .ofNat 1), ("data", .object d),
      ("message", .string "m")] (.object d) :=
    ⟨⟨_, _, List.mem_cons_self, rfl, by decide⟩, ⟨"m", by simp⟩, by simp⟩
  have hintegral : Json.IsIntegral (.object d) := ⟨trivial, trivial, trivial⟩
  have hcanonical : Json.IsCanonical (.object d) := ⟨by decide, trivial, trivial⟩
  have hdepth : (Json.object d).depth ≤ Json.greatestDepth := by decide
  have hkept := (hdata.data_ofJson_eq_some_iff hbrings.isCanonical hbrings.embedsNothing hintegral
    nofun).2 ⟨⟨by decide, trivial, trivial⟩, hdepth⟩
  refine ⟨_, response, _, hbrings, hparse, hdata, hintegral, fun htwice ↦ ?_, ?_,
    hbrings.answer_of_parse hparse, hkept, fun hint hhint ↦ ?_⟩
  · exact absurd htwice.2 (by decide)
  · exact List.forall_mem_singleton.2 fun _ ↦ .inl rfl
  · obtain ⟨-, hflag⟩ := (exists_decode_iff hcanonical.hasUniqueNames).1 ⟨hint, hhint⟩
    obtain ⟨b, hb⟩ := hflag _ List.mem_cons_self (.inl rfl)
    cases hb

end Lsp.InitializeError

end LspClient
