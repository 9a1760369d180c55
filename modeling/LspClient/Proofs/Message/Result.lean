import LspClient.Message.Envelope
import LspClient.Proofs.Json.RoundTrip
import LspClient.Proofs.Message.ServerMessage

/-!
# Messages that bring a result

The message in which a server answers a request is an object with the version, the id and the result
(`resultMessage`). It is never taken for a message of the server's own
(`isServerMessage_resultMessage`), and parsing it gives a response to that id. The response carries
the very result exactly if the result is plain (`parse_resultMessage`).
-/

namespace LspClient

open Json

/-- The members of the message that answers the request of some id. -/
def resultMembers (id : Id) (v : Json) : Json.Members :=
  [("jsonrpc", protocolVersion), ("id", id.json), ("result", v)]

/-- The message that answers the request of some id. -/
def resultMessage (id : Id) (v : Json) : String :=
  (Json.object (resultMembers id v)).text

theorem isIntegral_id (id : Id) : id.json.IsIntegral := by
  cases id <;> trivial

/-! ### Members of records -/

/-- A member that was written is read by the reader of members. -/
theorem strip_readMembers_written {σ : Type} (record : TextRecord σ) (state : σ) {first : Bool}
    {t : List Char} (name : String) (value behind : List Char)
    (ht : Follows first t (printString name ++ ':' :: (value ++ behind))) :
    strip (record.readMembers first state t) =
      (strip (record.member state name.toList (':' :: (value ++ behind)))).bind fun p ↦
        strip (record.readMembers false p.1 p.2) := by
  have htext : printString name ++ ':' :: (value ++ behind) =
      memberText .none (name.toList.flatMap escapeChar) .none .none value ++ behind := by
    rw [memberText_append]
    exact printString_append name _
  rw [htext] at ht
  have hname := stringTail_append (spells_escape name.toList) [] (':' :: (value ++ behind))
  rw [List.reverse_nil, List.nil_append] at hname
  have hahead : Ahead first t
      (name.toList.flatMap escapeChar ++ '"' :: ':' :: (value ++ behind)) := Follows.ahead ht
  rw [TextRecord.strip_readMembers_member hahead, TextRecord.strip_readMember hname]

namespace Response

variable {rest : List Char}

theorem record_member (parts : Parts) (name s : List Char) :
    record.member parts name s = Response.readMember parts name s :=
  rfl

/-- The version is skipped. -/
theorem strip_version (parts : Parts) (hrest : Stops rest) :
    strip (record.member parts "jsonrpc".toList (':' :: (print protocolVersion ++ rest))) =
      .ok (parts, rest) := by
  have hversion : Derives .value (print protocolVersion) := derives_print trivial
  have hskip := skipValue_derives hversion .none hrest
  rw [record_member, Response.readMember, if_neg (by decide), if_neg (by decide),
    if_neg (by decide), strip_map, strip_afterColon _ (skipSpace_cons (by decide) _)]
  exact congrArg (Except.map _) (strip_eq_ok.2 hskip)

/-- An id that is not `null` is read back. -/
theorem strip_readId {id : Id} (hid : id ≠ .null) (leave : List Char → List Char)
    (hrest : Stops rest) : strip (readId leave (print id.json ++ rest)) = .ok (id, rest) := by
  have hsays := says_print (isIntegral_id id)
  obtain ⟨hfits, hsorted⟩ : Fits false innerDepth id.json ∧ id.json.sorted = id.json := by
    cases id <;> exact ⟨⟨Nat.zero_le _, nofun⟩, rfl⟩
  have hvalue : strip (readValue false innerDepth (print id.json ++ rest)) =
      .ok (id.json, rest) := by
    have hread := hsays.strip_readValue hfits .none hrest
    rwa [hsorted] at hread
  obtain ⟨c, q, hprint, hn⟩ : ∃ c q, print id.json = c :: q ∧ c ≠ 'n' := by
    cases id with
    | null => exact absurd rfl hid
    | number n =>
      obtain ⟨c, q, hdigits, hc⟩ := (isInteger_digits n.toNat).isUnsigned.exists_cons
      exact ⟨c, q, hdigits, ne_of_isDigit hc (by decide)⟩
    | string s => exact ⟨'"', _, rfl, by decide⟩
  have hskip : skipSpace (print id.json ++ rest) = c :: (q ++ rest) := by
    rw [← List.cons_append, ← hprint]
    exact hsays.derives.skipSpace_append .none rest
  have hjson : Id.ofJson? id.json = some id := by
    cases id with
    | null => exact absurd rfl hid
    | number n => rfl
    | string s => rfl
  obtain ⟨hlt, hnull⟩ := orNull_some hskip hn (strip_eq_ok.1 hvalue)
  rw [strip_eq_ok]
  refine ⟨hlt, ?_⟩
  simp only [readId, hnull, hjson]

theorem strip_id {id : Id} (hid : id ≠ .null) (hrest : Stops rest) :
    strip (record.member {} "id".toList (':' :: (print id.json ++ rest))) =
      .ok ({ id := some id }, rest) := by
  rw [record_member, Response.readMember, if_pos rfl, if_neg (by decide), strip_map,
    strip_afterColon _ (skipSpace_cons (by decide) _), strip_readId hid _ hrest]
  rfl

theorem strip_result (id : Id) (s : List Char) :
    strip (record.member { id := some id } "result".toList (':' :: s)) =
      (strip (readValue true innerDepth s)).map fun p ↦
        ({ id := some id, result := some p.1 }, p.2) := by
  have hfresh : ¬({ id := some id : Parts }.result.isSome = true) := Bool.false_ne_true
  rw [record_member, Response.readMember, if_neg (by decide), if_pos rfl, if_neg hfresh, strip_map,
    strip_afterColon _ (skipSpace_cons (by decide) _)]

end Response

/-! ### Parsing -/

variable {id : Id} {v : Json}

/-- The text of a response with a result. -/
theorem resultMessage_toList (id : Id) (v : Json) :
    (resultMessage id v).toList = '{' :: (printString "jsonrpc" ++ ':' :: (print protocolVersion ++
      ',' :: (printString "id" ++ ':' :: (print id.json ++
        ',' :: (printString "result" ++ ':' :: (print v ++ ['}'])))))) :=
  String.toList_ofList

/-- The response to a request is parsed as one, and what it carries is the result exactly if that is
plain. -/
theorem parse_resultMessage (hid : id ≠ .null) (hintegral : v.IsIntegral)
    (hcanonical : v.IsCanonical) (hdepth : v.depth ≤ innerDepth) :
    Response.parse (resultMessage id v) = .ok ⟨id, .result v⟩ ↔ v.IsPlain := by
  have hstops : ∀ c ∈ [',', ']', '}'], ∀ s, Stops (c :: s) :=
    fun c hc s ↦ stops_of_blank .none hc s
  obtain ⟨outcome, hread, hfits⟩ :=
    (says_print hintegral).readsBack hcanonical innerDepth .none (hstops '}' (by decide) [])
  replace hread : strip (readValue true innerDepth (print v ++ ['}'])) = _ := hread
  have hplain : outcome = .ok v ↔ v.IsPlain :=
    hfits.trans ⟨fun h ↦ h.plain rfl, fun h ↦ ⟨hdepth, fun _ ↦ h⟩⟩
  -- the version is skipped, the id is kept, and the rest depends on how the result is read
  have hparts : Response.record.read (resultMessage id v).toList =
      outcome.map fun w ↦ { id := some id, result := some w } := by
    have hskip : skipSpace (resultMessage id v).toList = (resultMessage id v).toList := by
      rw [resultMessage_toList]
      exact skipSpace_cons (by decide) _
    rw [resultMessage_toList] at hskip ⊢
    rw [TextRecord.read_object hskip, strip_readMembers_written _ _ "jsonrpc" _ _ (follows_first _),
      Response.strip_version _ (hstops ',' (by decide) _)]
    show Except.bind (strip (Response.record.readMembers false _ _)) _ = _
    rw [strip_readMembers_written _ _ "id" _ _ (follows_comma _),
      show Response.record.start = {} from rfl, Response.strip_id hid (hstops ',' (by decide) _)]
    show Except.bind (strip (Response.record.readMembers false _ _)) _ = _
    rw [strip_readMembers_written _ _ "result" _ _ (follows_comma _), Response.strip_result, hread]
    cases outcome with
    | error e => rfl
    | ok w =>
      show Except.bind (strip (Response.record.readMembers false _ ['}'])) _ = _
      rw [TextRecord.strip_readMembers_end false (skipSpace_cons (by decide) [])]
      rfl
  rw [Response.parse, hparts, ← hplain]
  cases outcome with
  | error e => simp [Except.map]
  | ok w => simp [Except.map, Response.Parts.response]

/-- What answers a request is no message of the server's own. -/
theorem isServerMessage_resultMessage (hintegral : v.IsIntegral) :
    isServerMessage (resultMessage id v) = false := by
  have hversion : Derives .value (print protocolVersion) := derives_print trivial
  have hmembers := HasMembers.cons .none (spells_escape "jsonrpc".toList) .none .none hversion .none
    (.cons .none (spells_escape "id".toList) .none .none (derives_print (isIntegral_id id)) .none
      (.one .none (spells_escape "result".toList) .none .none (derives_print hintegral) .none))
  refine isServerMessage_of_none hmembers
    (?_ : _ = Blank.none.chars ++ '{' :: (_ ++ '}' :: Blank.none.chars)) ?_
  · rw [resultMessage_toList, ← printMember_eq, ← printMember_eq, ← printMember_eq]
    simp only [Blank.none, List.append_assoc, List.cons_append, List.nil_append]
  · rfl

end LspClient
