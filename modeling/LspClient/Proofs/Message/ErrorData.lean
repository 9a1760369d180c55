import LspClient.Proofs.Message.ErrorObject

/-!
# The data of an error

A server can attach data to an error object. They are held as JSON text and read again when they are
asked for, and what comes out is what the server has attached exactly if the data are plain and not
nested too deep (`HasData.data_ofJson_eq_some_iff`). Data that are not plain take the rest of the
error object with them: the whole error is then kept as the value that it is.
-/

namespace LspClient

open Json (EmbedsNothing IsCanonical Members)

namespace RemoteError

variable {ms : Members} {v : Json}

/-! ### Error objects -/

/-- Among the members of an error object are a 32-bit code, a message and data. -/
structure HasData (ms : Members) (v : Json) : Prop where
  code : ∃ n i, ("code", .number n) ∈ ms ∧ n.int? = some i ∧ -2147483648 ≤ i ∧ i ≤ 2147483647
  message : ∃ s, ("message", .string s) ∈ ms
  data : ("data", v) ∈ ms

/-- An object with these members describes an error with the data. -/
theorem HasData.exists_describes (h : HasData ms v) (hnodup : (ms.map Prod.fst).Nodup) :
    ∃ code message, Describes (.object ms) code message (some v) := by
  obtain ⟨n, i, hcode, hn, hi⟩ := h.code
  obtain ⟨s, hmessage⟩ := h.message
  refine ⟨i, s, .object hcode ⟨n, rfl, hn, hi⟩ hmessage fun d ↦ ?_⟩
  rw [Option.mem_some_iff]
  refine ⟨fun hd ↦ hd ▸ h.data, fun hd ↦ ?_⟩
  exact congrArg Prod.snd (List.inj_on_of_nodup_map hnodup h.data hd rfl)

/-- **Data come out as they were attached exactly if they are plain and not nested too deep.** -/
theorem HasData.data_ofJson_eq_some_iff (h : HasData ms v) (hcanonical : IsCanonical (.object ms))
    (hembeds : EmbedsNothing (.object ms)) (hintegral : v.IsIntegral) (hnull : v ≠ .null) :
    (ofJson (.object ms)).data = some v ↔ v.IsPlain ∧ v.depth ≤ Json.greatestDepth := by
  obtain ⟨hascending, hvalues⟩ := Json.isCanonical_object.1 hcanonical
  have hunique := hcanonical.hasUniqueNames
  obtain ⟨code, message, hdescribes⟩ := h.exists_describes (Json.nodup_of_pairwise_lt hascending)
  by_cases hplain : v.IsPlain
  · obtain ⟨kept, hkept, hsame⟩ := @exists_decodeData (some v) fun d hd ↦
      Option.mem_some_iff.1 hd ▸ hplain
    obtain rfl : kept = some v := (hsame v).2 ⟨rfl, hnull⟩
    rw [ofJson_of_describes hunique hdescribes hkept,
      ← Json.read_eq_ok_iff (Json.isTextOf_text hintegral) (hvalues _ h.data)]
    exact Json.toOption_eq_some_iff
  · have hbare : ofJson (.object ms) = .bare (.object ms) := by
      refine ofJson_eq_bare hunique fun code' message' data kept h' hkept ↦ hplain ?_
      obtain ⟨-, -, rfl⟩ := hdescribes.unique hunique h'
      exact isPlain_of_decodeData hkept ((Json.all_object.1 hembeds).2 _ h.data)
    rw [hbare]
    exact iff_of_false nofun fun hroom ↦ hplain hroom.1

end RemoteError

/-! ### Responses -/

namespace Response

variable {body : String} {ms : Members}

/-- An object has been read for the error of a response; these are the members that it is kept
with. -/
def BringsError (body : String) (ms : Members) : Prop :=
  ∃ parts, record.read body.toList = .ok parts ∧ parts.error.join = some (.object ms)

/-- A response with an error that is accepted carries this error. -/
theorem BringsError.answer_of_parse (h : BringsError body ms) {response : Response}
    (hparse : parse body = .ok response) : response.answer = .error (.ofJson (.object ms)) := by
  obtain ⟨parts, hread, herror⟩ := h
  rw [parse, hread] at hparse
  simp only [Parts.response, herror] at hparse
  rcases hresult : parts.result with _ | _ | _ <;> rw [hresult] at hparse <;> cases hparse <;> rfl

/-- What holds of every value that is read holds of the error. -/
theorem BringsError.holds (h : BringsError body ms) {p : Json → Prop}
    (hp : ∀ {s r v}, Json.strip (Json.readValue true Json.innerDepth s) = .ok (v, r) → p v) :
    p (.object ms) := by
  obtain ⟨parts, hread, herror⟩ := h
  exact ((record_maintains hp).of_read hread).error _ herror

theorem BringsError.isCanonical (h : BringsError body ms) : IsCanonical (.object ms) :=
  h.holds Json.isCanonical_of_readValue

theorem BringsError.embedsNothing (h : BringsError body ms) : EmbedsNothing (.object ms) :=
  h.holds Json.embedsNothing_of_readValue

end Response

end LspClient
