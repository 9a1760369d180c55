import LspClient.Client.Basic
import LspClient.Proofs.Message.Parts

/-!
# The verdict on a response

What a client makes of the body of a response is told by the value that the body says, however it is
written. A value that has the form of a response is judged by its id, its result and its error
(`verdict`), and any other is malformed (`judge_of_isTextOf`). That is so where no text is embedded
in the result or in the error: an object there that begins with the reserved name is not taken for
the object it is (`judge_embedded`).
-/

namespace LspClient

open Json

/-! ### Members -/

namespace Response

/-- The value of a member, if it is there. -/
def member? (name : String) (ms : Members) : Option Json :=
  (values name ms).head?

/-- The id that members give, `null` if they give none. -/
def idOf (ms : Members) : Id :=
  ((member? "id" ms).bind Id.ofJson?).getD .null

variable {parts : Parts} {ms : Members}

theorem Parts.AreOf.id_getD (h : parts.AreOf ms) : parts.id.getD .null = idOf ms := by
  rw [h.id.eq_bind]
  rfl

/-- The result of a response is the member of that name, sorted. -/
theorem Parts.AreOf.result_eq (h : parts.AreOf ms) :
    parts.result = (member? "result" ms).map sorted := by
  rw [h.result.eq_bind, Option.map_eq_bind]
  rfl

theorem nonNull?_sorted (v : Json) : v.sorted.nonNull? = v.nonNull?.map fun _ ↦ v.sorted := by
  cases v <;> simp only [sorted, Json.nonNull?, Option.map_some, Option.map_none]

/-- The error of a response is the member of that name, sorted, unless it is null. -/
theorem Parts.AreOf.error_join (h : parts.AreOf ms) :
    parts.error.join = ((member? "error" ms).map sorted).bind Json.nonNull? := by
  rw [h.error.eq_bind, member?]
  cases (values "error" ms).head? with
  | none => rfl
  | some w => exact (nonNull?_sorted w).symm

end Response

open Response

namespace Client

/-- The verdict on a response to the request of some id, given its id, its result and its error. A
`null` error is none, and a `null` result is one unless there is an error. An error counts also
where the response has no id. -/
def verdict (expected id : Id) (result error : Option Json) : Except ClientError Json :=
  match error.bind Json.nonNull?, result with
  | some e, result =>
    if (result.bind Json.nonNull?).isSome then .error (.protocol (.resultAndError id))
    else if id = expected ∨ id = .null then .error (.rpc expected (.ofJson e))
    else .error (.protocol (.idMismatch expected id))
  | none, none => .error (.protocol (.missingResult id))
  | none, some v =>
    if id = expected then .ok v else .error (.protocol (.idMismatch expected id))

/-- A verdict is not that the response is malformed. -/
theorem verdict_ne_malformed (expected id : Id) (result error : Option Json) (body : String)
    (fault : Fault) :
    verdict expected id result error ≠ .error (.protocol (.malformed body fault)) := by
  intro h
  rw [verdict.eq_def] at h
  split at h
  · split at h
    · cases h
    · split at h <;> cases h
  · cases h
  · split at h <;> cases h

/-- Parts are judged by their id, their result and their error. -/
theorem judge_of_parts {expected : Id} {body : String} {parts : Parts} {error : Option Json}
    (hread : record.read body.toList = .ok parts)
    (herror : parts.error.join = error.bind nonNull?) :
    judge expected body = verdict expected (parts.id.getD .null) parts.result error := by
  rw [judge, parse, hread]
  simp only [Parts.response, verdict, herror]
  cases error.bind nonNull? with
  | some e =>
    cases parts.result with
    | none => rfl
    | some v => cases v <;> rfl
  | none =>
    cases parts.result with
    | none => rfl
    | some v => cases v <;> rfl

/-- The value says of members that count that they are nested no deeper than a reader can go, and it
has room for them if no text is embedded. -/
theorem hasRoom_of_depth {v : Json} (hdepth : v.depth ≤ greatestDepth)
    (hplain : ∀ m ∈ fields v, m.1 = "result" ∨ m.1 = "error" → m.2.IsPlain) :
    ∀ m ∈ fields v, HasRoom m := by
  have hinner : ∀ m ∈ fields v, m.2.depth ≤ innerDepth := by
    cases v with
    | object ms => exact depth_object_le.1 hdepth
    | array xs =>
      intro m hm
      exact depth_array_le.1 hdepth m.2 (List.of_mem_zip hm).2
    | null | bool _ | number _ | string _ => exact fun _ hm ↦ absurd hm List.not_mem_nil
  intro m hm hname
  refine ⟨hinner m hm, fun hembeds ↦ hplain m hm ?_⟩
  have hid : m.1 ≠ "id" := of_decide_eq_true hembeds
  simpa [names, hid] using hname

/-- **The verdict on the body of a response.** A body is malformed exactly if what it says does not
have the form of a response, and otherwise the verdict is the one on its id, its result and its
error. -/
theorem judge_of_isTextOf {body : String} {v : Json} (htext : IsTextOf body.toList v)
    (hdepth : v.depth ≤ greatestDepth)
    (hplain : ∀ m ∈ fields v, m.1 = "result" ∨ m.1 = "error" → m.2.IsPlain) (expected : Id) :
    ((∃ fault, judge expected body = .error (.protocol (.malformed body fault))) ↔
        ¬ HasForm v) ∧
      (HasForm v → judge expected body =
        verdict expected (idOf (fields v)) ((member? "result" (fields v)).map sorted)
          ((member? "error" (fields v)).map sorted)) := by
  obtain ⟨hok, herror⟩ := read_of_isTextOf htext (hasRoom_of_depth hdepth hplain)
  cases hread : record.read body.toList with
  | error fault =>
    rw [hread] at herror
    have hmalformed : judge expected body = .error (.protocol (.malformed body fault)) := by
      rw [judge, parse, hread]
    have hnone := herror rfl
    exact ⟨⟨fun _ ↦ hnone, fun _ ↦ ⟨fault, hmalformed⟩⟩, fun h ↦ absurd h hnone⟩
  | ok parts =>
    rw [hread] at hok
    obtain ⟨hform, hparts⟩ := hok parts rfl
    have hjudge := @judge_of_parts expected _ _ _ hread hparts.error_join
    rw [hparts.id_getD, hparts.result_eq] at hjudge
    refine ⟨⟨?_, fun h ↦ absurd hform h⟩, fun _ ↦ hjudge⟩
    rintro ⟨fault, hmalformed⟩
    exact absurd (hjudge.symm.trans hmalformed) (verdict_ne_malformed _ _ _ _ _ _)

/-- A response whose id comes last, its name written with an escape, behind an error and a result
that are both `null`. -/
def lateId : String :=
  "\x7b\"error\":null,\"result\":null , \"\\u0069d\":7\x7d"

/-- What that response says. -/
def lateMembers : Members :=
  [("error", .null), ("result", .null), ("id", .ofNat 7)]

/-- The response whose id comes late is written as this text. -/
theorem isTextOf_lateId : IsTextOf lateId.toList (.object lateMembers) := by
  have hseven : Says .value ['7'] (.ofNat 7) :=
    .natural (IsInteger.digits (by decide) (Text.forall_mem_of_all rfl)).isUnsigned rfl
  have hletter : IsHex ['0', '0', '6', '9'] 0x69 :=
    @IsHex.mk _ _ _ _ 0 0 6 9 (by decide) (by decide) (by decide) (by decide)
  have hid : Spells ['i', 'd'] ['\\', 'u', '0', '0', '6', '9', 'd'] :=
    .unicode hletter (by decide) (spells_escape ['d'])
  have hspace : ∀ c ∈ [' '], isSpace c = true := Text.forall_mem_of_all rfl
  have hmembers := Says.members .none (spells_escape "error".toList) .none .none .nullWord .none
    (.members .none (spells_escape "result".toList) .none .none .nullWord ⟨[' '], hspace⟩
      (.member ⟨[' '], hspace⟩ hid .none .none hseven .none))
  exact ⟨.none, _, .none, rfl, .object hmembers⟩

/-- That response brings the result `null` to the request it answers. -/
theorem judge_lateId :
    IsTextOf lateId.toList (.object lateMembers) ∧ (object lateMembers).depth ≤ greatestDepth ∧
      (∀ m ∈ fields (.object lateMembers), m.1 = "result" ∨ m.1 = "error" → m.2.IsPlain) ∧
      HasForm (.object lateMembers) ∧ judge (.number 7) lateId = .ok .null := by
  have hdepth : (object lateMembers).depth ≤ greatestDepth := by decide
  have hplain : ∀ m ∈ fields (.object lateMembers), m.1 = "result" ∨ m.1 = "error" → m.2.IsPlain :=
    List.forall_mem_cons.2 ⟨fun _ ↦ trivial, List.forall_mem_cons.2 ⟨fun _ ↦ trivial,
      List.forall_mem_singleton.2 fun _ ↦ trivial⟩⟩
  have hform : HasForm (.object lateMembers) := ⟨by decide, by decide⟩
  obtain ⟨-, hjudge⟩ := judge_of_isTextOf isTextOf_lateId hdepth hplain (.number 7)
  exact ⟨isTextOf_lateId, hdepth, hplain, hform, (hjudge hform).trans rfl⟩

/-- A response whose result begins with the reserved name, but holds no text there. -/
def embedded : String :=
  "\x7b\"id\":1,\"result\":\x7b\"$serde_json::private::RawValue\":1\x7d\x7d"

/-- What that response says. -/
def embeddedMembers : Members :=
  [("id", .ofNat 1), ("result", .object [("$serde_json::private::RawValue", .ofNat 1)])]

/-- That response is taken for malformed, although it has the form of a response and the verdict on
its id and its result is that it brings the result. -/
theorem judge_embedded :
    IsTextOf embedded.toList (.object embeddedMembers) ∧
      (object embeddedMembers).depth ≤ greatestDepth ∧ HasForm (.object embeddedMembers) ∧
      verdict (.number 1) (idOf embeddedMembers) ((member? "result" embeddedMembers).map sorted)
          ((member? "error" embeddedMembers).map sorted) =
        .ok (.object [("$serde_json::private::RawValue", .ofNat 1)]) ∧
      ∃ fault, judge (.number 1) embedded = .error (.protocol (.malformed embedded fault)) := by
  have hone : Says .value ['1'] (.ofNat 1) :=
    .natural (IsInteger.digits (by decide) (Text.forall_mem_of_all rfl)).isUnsigned rfl
  have hresult := Says.object (.member .none (spells_escape embeddedName) .none .none hone .none)
  have hmembers := Says.members .none (spells_escape "id".toList) .none .none hone .none
    (.member .none (spells_escape "result".toList) .none .none hresult .none)
  refine ⟨⟨.none, _, .none, rfl, .object hmembers⟩, by decide, ⟨by decide, by decide⟩, rfl, ?_⟩
  have hfails : (record.read embedded.toList).toOption.isNone = true := by decide +kernel
  cases hread : record.read embedded.toList with
  | error fault => exact ⟨fault, by rw [judge, parse, hread]⟩
  | ok parts =>
    rw [hread] at hfails
    cases hfails

end Client

end LspClient
