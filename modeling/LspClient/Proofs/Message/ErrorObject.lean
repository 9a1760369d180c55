import LspClient.Proofs.Json.Forms
import LspClient.Proofs.Json.RoundTrip
import LspClient.Proofs.Message.Kept

/-!
# Error objects

What becomes of a value that a server sends as an error. A value describes an error if it has a code
and a message, as an object or as an array (`Describes`), and exactly these values are decoded, if
their data can be kept (`decode_eq_ok_iff`); every other value is kept as it is. From that follows
what an error holds of what the server said (`ofJson_keeps`): all of it, unless an object in the
data begins with the reserved name. Then the code and the message can be lost too.
-/

namespace LspClient

open Json (EmbedsNothing IsCanonical Members)

namespace RemoteError

open Json.Source (Gives gives_members gives_elements)

variable {v w : Json} {ms : Members} {e : RemoteError} {code : Int} {message : String}
  {data : Option Json}

/-! ### Values that describe an error -/

/-- A value that is the code of an error: an integer of 32 bits. -/
def IsCode (v : Json) (code : Int) : Prop :=
  ∃ n, v = .number n ∧ n.int? = some code ∧ -2147483648 ≤ code ∧ code ≤ 2147483647

/-- A value describes an error by its code, its message and data, or none: as an object with members
of these names, whatever else is in it, or as an array of the three, of which the last may be
missing. -/
inductive Describes : Json → Int → String → Option Json → Prop where
  | object {ms : Members} {w : Json} {code : Int} {message : String} {data : Option Json}
      (hcode : ("code", w) ∈ ms) (hw : IsCode w code) (hmessage : ("message", .string message) ∈ ms)
      (hdata : ∀ d, d ∈ data ↔ ("data", d) ∈ ms) : Describes (.object ms) code message data
  | array {w : Json} {code : Int} (hw : IsCode w code) (message : String) (data : Option Json) :
      Describes (.array (w :: .string message :: data.toList)) code message data

theorem decodeCode_eq_ok_iff : decodeCode w = .ok code ↔ IsCode w code :=
  Json.decodeInt_eq_ok_iff

theorem build_eq_ok_iff {source : Json.Source} : record.build source = .ok e ↔
    ∃ code message data, source.field 0 codeField decodeCode = .ok (some code) ∧
      source.field 1 messageField Json.decodeString = .ok (some message) ∧
      source.field 2 dataField decodeData = .ok data ∧
      e = .object code message (data.join.map Json.text) := by
  constructor
  · intro h
    obtain ⟨code, hcode, h⟩ := Json.exists_of_bind_eq_ok h
    obtain ⟨message, hmessage, h⟩ := Json.exists_of_bind_eq_ok h
    obtain ⟨data, hdata, h⟩ := Json.exists_of_bind_eq_ok h
    cases h
    exact ⟨code, message, data, Json.Source.field_of_required hcode,
      Json.Source.field_of_required hmessage, hdata, rfl⟩
  · rintro ⟨code, message, data, hcode, hmessage, hdata, rfl⟩
    simp only [record, Json.Source.required, hcode, hmessage, hdata]
    rfl

theorem record_asks : record.Asks := by
  intro ms e h
  obtain ⟨code, message, data, hcode, hmessage, hdata, -⟩ := build_eq_ok_iff.1 h
  exact List.forall_mem_cons.2 ⟨Json.exists_field_check hcode, List.forall_mem_cons.2
    ⟨Json.exists_field_check hmessage, List.forall_mem_singleton.2 (Json.exists_field_check hdata)⟩⟩

/-- Data are kept as what decoding makes of them, and there are none where none are given. -/
theorem exists_join_iff {source : Json.Source} (h : source.Gives 2 dataField data)
    {kept : Option Json} :
    (∃ o, source.field 2 dataField decodeData = .ok o ∧ o.join = kept) ↔
      decodeData (data.getD .null) = .ok kept := by
  rw [h]
  cases data with
  | none => simp [decodeData, Json.decodeOption, eq_comm]
  | some d => simp [Json.map_eq_ok_iff]

/-- An error is built from a source that gives each field its value. -/
theorem build_of_gives {source : Json.Source} {w? m? : Option Json}
    (hcode : source.Gives 0 codeField w?) (hmessage : source.Gives 1 messageField m?)
    (hdata : source.Gives 2 dataField data) : record.build source = .ok e ↔
      ∃ w code message kept, w ∈ w? ∧ IsCode w code ∧ .string message ∈ m? ∧
        decodeData (data.getD .null) = .ok kept ∧
          e = .object code message (kept.map Json.text) := by
  simp only [build_eq_ok_iff, hcode.eq_ok_some_iff, hmessage.eq_ok_some_iff, decodeCode_eq_ok_iff,
    Json.decodeString_eq_ok_iff, ← exists_join_iff hdata]
  constructor
  · rintro ⟨code, message, o, ⟨w, hw, hiscode⟩, ⟨_, hm, rfl⟩, ho, rfl⟩
    exact ⟨w, code, message, o.join, hw, hiscode, hm, ⟨o, ho, rfl⟩, rfl⟩
  · rintro ⟨w, code, message, _, hw, hiscode, hm, ⟨o, ho, rfl⟩, rfl⟩
    exact ⟨code, message, o, ⟨w, hw, hiscode⟩, ⟨_, hm, rfl⟩, ho, rfl⟩

/-- An array of at most three elements of which two are known. -/
theorem exists_eq_of_length_le {xs : List Json} {m : Json} (hw : w ∈ xs[0]?) (hm : m ∈ xs[1]?)
    (hlength : xs.length ≤ 3) :
    ∃ data : Option Json, xs = w :: m :: data.toList ∧ xs[2]? = data := by
  rcases xs with _ | ⟨a, _ | ⟨b, _ | ⟨c, _ | ⟨d, xs⟩⟩⟩⟩
  · cases hw
  · cases hm
  · cases hw
    cases hm
    exact ⟨none, rfl, rfl⟩
  · cases hw
    cases hm
    exact ⟨some c, rfl, rfl⟩
  · simp only [List.length_cons] at hlength
    omega

/-- **Which values are decoded.** An error is decoded from a value that describes it, if its data
can be kept. -/
theorem decode_eq_ok_iff (hunique : v.HasUniqueNames) :
    record.decode v = .ok e ↔ ∃ code message data kept, Describes v code message data ∧
      decodeData (data.getD .null) = .ok kept ∧ e = .object code message (kept.map Json.text) := by
  cases v with
  | object ms =>
    obtain ⟨hnodup, -⟩ := Json.hasUniqueNames_object.1 hunique
    obtain ⟨w?, hw?⟩ := Json.exists_forall_mem_iff hnodup "code"
    obtain ⟨m?, hm?⟩ := Json.exists_forall_mem_iff hnodup "message"
    obtain ⟨d?, hd?⟩ := Json.exists_forall_mem_iff hnodup "data"
    have hbuild := @build_of_gives e d? _ _ _ (gives_members (f := codeField) rfl hnodup hw?)
      (gives_members (f := messageField) rfl hnodup hm?)
      (gives_members (f := dataField) rfl hnodup hd?)
    rw [Json.Record.decode, record_asks.ofMembers_eq_ok_iff, hbuild]
    constructor
    · rintro ⟨w, code, message, kept, hw, hcode, hm, hkept, he⟩
      exact ⟨code, message, d?, kept, .object ((hw? w).1 hw) hcode ((hm? _).1 hm) hd?, hkept, he⟩
    · rintro ⟨code, message, data, kept, hdescribes, hkept, he⟩
      cases hdescribes with
      | @object _ w _ _ _ hw hcode hm hdata =>
        have hsame : data = d? := Option.ext fun d ↦ (hdata d).trans (hd? d).symm
        exact ⟨w, code, message, kept, (hw? w).2 hw, hcode, (hm? _).2 hm, hsame ▸ hkept, he⟩
  | array xs =>
    have hbuild := @build_of_gives e _ _ _ _ (gives_elements xs 0 codeField)
      (gives_elements xs 1 messageField) (gives_elements xs 2 dataField)
    rw [Json.Record.decode, Json.Record.ofElements_eq_ok_iff, hbuild]
    constructor
    · rintro ⟨⟨w, code, message, kept, hw, hcode, hm, hkept, he⟩, hlength⟩
      obtain ⟨data, rfl, hdata⟩ := exists_eq_of_length_le hw hm hlength
      exact ⟨code, message, data, kept, .array hcode message data, hdata ▸ hkept, he⟩
    · rintro ⟨code, message, data, kept, hdescribes, hkept, he⟩
      cases hdescribes with
      | @array w _ hcode _ _ =>
        cases data with
        | none =>
          exact ⟨⟨w, code, message, kept, rfl, hcode, rfl, hkept, he⟩, Nat.le_of_ble_eq_true rfl⟩
        | some d =>
          exact ⟨⟨w, code, message, kept, rfl, hcode, rfl, hkept, he⟩, Nat.le_of_ble_eq_true rfl⟩
  | null | bool | number | string =>
    refine iff_of_false (fun h ↦ by cases h) ?_
    rintro ⟨_, _, _, _, hdescribes, -⟩
    cases hdescribes

/-- A value describes one error only. -/
theorem Describes.unique (h : Describes v code message data) (hunique : v.HasUniqueNames)
    {code' : Int} {message' : String} {data' : Option Json}
    (h' : Describes v code' message' data') : code = code' ∧ message = message' ∧ data = data' := by
  have hcode : ∀ {w : Json}, IsCode w code → IsCode w code' → code = code' := by
    rintro _ ⟨n, rfl, hn, -⟩ ⟨n', hn', hint, -⟩
    cases hn'
    exact Option.some.inj (hn.symm.trans hint)
  cases h with
  | @object ms w _ _ _ hw hiscode hmessage hdata =>
    obtain ⟨hnodup, -⟩ := Json.hasUniqueNames_object.1 hunique
    cases h' with
    | @object _ w' _ _ _ hw' hiscode' hmessage' hdata' =>
      cases List.inj_on_of_nodup_map hnodup hw hw' rfl
      cases List.inj_on_of_nodup_map hnodup hmessage hmessage' rfl
      exact ⟨hcode hiscode hiscode', rfl, Option.ext fun d ↦ (hdata d).trans (hdata' d).symm⟩
  | array hiscode _ _ =>
    generalize hv : Json.array _ = v at h'
    cases h' with
    | object => cases hv
    | array hiscode' _ _ =>
      obtain ⟨rfl, rest⟩ := List.cons.inj (Json.array.inj hv)
      obtain ⟨hmessage, hdata⟩ := List.cons.inj rest
      refine ⟨hcode hiscode hiscode', Json.string.inj hmessage, ?_⟩
      simpa using congrArg List.head? hdata

/-! ### Errors that are kept -/

/-- The error of a value that describes one, if its data can be kept. -/
theorem ofJson_of_describes (hunique : v.HasUniqueNames) (h : Describes v code message data)
    {kept : Option Json} (hkept : decodeData (data.getD .null) = .ok kept) :
    ofJson v = .object code message (kept.map Json.text) := by
  have hdecode : record.decode v = .ok (.object code message (kept.map Json.text)) :=
    (decode_eq_ok_iff hunique).2 ⟨code, message, data, kept, h, hkept, rfl⟩
  rw [ofJson, hdecode]

/-- Any other value is kept as it is. -/
theorem ofJson_eq_bare (hunique : v.HasUniqueNames)
    (h : ∀ code message data kept, Describes v code message data →
      decodeData (data.getD .null) ≠ .ok kept) : ofJson v = .bare v := by
  rw [ofJson]
  cases hdecode : record.decode v with
  | error m => rfl
  | ok e =>
    obtain ⟨code, message, data, kept, hdescribes, hkept, -⟩ :=
      (decode_eq_ok_iff hunique).1 hdecode
    exact absurd hkept (h code message data kept hdescribes)

/-- An error holds a code, a message and data; `null` is no data. -/
def Holds (e : RemoteError) (code : Int) (message : String) (data : Option Json) : Prop :=
  (∃ text, e = .object code message text) ∧ e.code = some code ∧ e.message = message ∧
    ∀ d, e.data = some d ↔ d ∈ data ∧ d ≠ .null

theorem message_suffix_shown (e : RemoteError) : ∃ before, e.shown = before ++ e.message := by
  rw [shown]
  split
  · exact ⟨"", (String.empty_append).symm⟩
  · split
    · exact ⟨_, rfl⟩
    · exact ⟨_, rfl⟩

/-- Data can be kept as they are if they are plain. -/
theorem exists_decodeData (h : ∀ d ∈ data, d.IsPlain) :
    ∃ kept, decodeData (data.getD .null) = .ok kept ∧ ∀ d, d ∈ kept ↔ d ∈ data ∧ d ≠ .null := by
  have hnone : ∀ d : Json, d ∈ (none : Option Json) ↔ d ∈ (some .null : Option Json) ∧ d ≠ .null :=
    fun d ↦ iff_of_false nofun fun ⟨hd, hne⟩ ↦ hne (Option.mem_some_iff.1 hd).symm
  cases data with
  | none => exact ⟨none, rfl, by simp⟩
  | some d =>
    by_cases hnull : d = .null
    · subst hnull
      exact ⟨none, rfl, hnone⟩
    · refine ⟨some d, ?_, fun d' ↦ ?_⟩
      · rw [Option.getD_some, decodeData, Json.decodeOption_of_ne _ hnull,
          Json.decodeValue_eq_self_iff.2 (h d rfl)]
        rfl
      · rw [Option.mem_some_iff]
        exact ⟨fun hd ↦ ⟨hd, hd ▸ hnull⟩, And.left⟩

/-- Data in which nothing is embedded can be kept only if they are plain. -/
theorem isPlain_of_decodeData {d : Json} {kept : Option Json} (h : decodeData d = .ok kept)
    (hembeds : d.EmbedsNothing) : d.IsPlain := by
  by_cases hnull : d = .null
  · subst hnull
    trivial
  · rw [decodeData, Json.decodeOption_of_ne _ hnull] at h
    obtain ⟨w, hw, -⟩ := Json.exists_of_map_eq_ok h
    exact (Json.exists_decodeValue_iff hembeds).1 ⟨w, hw⟩

/-- What is given as data is part of the value. -/
theorem Describes.all_data (h : Describes v code message data) {p : Json → Prop} (hp : v.All p) :
    ∀ d ∈ data, d.All p := by
  intro d hd
  cases h with
  | object _ _ _ hdata => exact (Json.all_object.1 hp).2 _ ((hdata d).1 hd)
  | array _ _ _ =>
    exact (Json.all_array.1 hp).2 d (.tail _ (.tail _ (Option.mem_toList.2 hd)))

theorem Describes.depth_data_le (h : Describes v code message data) {n : Nat}
    (hv : v.depth ≤ n + 1) : ∀ d ∈ data, d.depth ≤ n := by
  intro d hd
  cases h with
  | object _ _ _ hdata => exact Json.depth_object_le.1 hv _ ((hdata d).1 hd)
  | array _ _ _ =>
    exact Json.depth_array_le.1 hv d (.tail _ (.tail _ (Option.mem_toList.2 hd)))

/-- The error of a value that describes one holds what the value gives exactly if the data are
plain. -/
theorem Describes.holds_iff (h : Describes v code message data) (hcanonical : v.IsCanonical)
    (hintegral : v.IsIntegral) (hdepth : v.depth ≤ Json.greatestDepth) :
    (ofJson v).Holds code message data ↔ ∀ d ∈ data, d.IsPlain := by
  have hunique := hcanonical.hasUniqueNames
  constructor
  · rintro ⟨⟨text, hobject⟩, -, -, hdata⟩ d hd
    by_cases hnull : d = .null
    · subst hnull
      trivial
    -- what comes out has been read, so that nothing is embedded in it
    have hread : (ofJson v).data = some d := (hdata d).2 ⟨hd, hnull⟩
    by_cases hkept : ∃ kept, decodeData (data.getD .null) = .ok kept
    · obtain ⟨kept, hkept⟩ := hkept
      rw [ofJson_of_describes hunique h hkept] at hread
      obtain _ | w := kept
      · cases hread
      · have hembeds := Json.embedsNothing_of_read (Json.toOption_eq_some_iff.1 hread)
        rw [Option.mem_def.1 hd] at hkept
        exact isPlain_of_decodeData hkept hembeds
    · rw [ofJson_eq_bare hunique] at hobject
      · cases hobject
      · intro code' message' data' kept h' hkept'
        obtain ⟨-, -, rfl⟩ := h.unique hunique h'
        exact hkept ⟨kept, hkept'⟩
  · intro hplain
    obtain ⟨kept, hkept, hsame⟩ := exists_decodeData hplain
    rw [ofJson_of_describes hunique h hkept]
    refine ⟨⟨_, rfl⟩, rfl, rfl, fun d ↦ ?_⟩
    rw [← hsame d]
    cases kept with
    | none => exact iff_of_false nofun nofun
    | some w =>
      have hw : w ∈ data := ((hsame w).1 rfl).1
      have hroom : w.depth ≤ Json.greatestDepth :=
        Nat.le_succ_of_le (h.depth_data_le (n := Json.greatestDepth - 1) hdepth w hw)
      have hback : Json.read w.text = .ok w :=
        (Json.read_eq_ok_iff (Json.isTextOf_text (h.all_data hintegral w hw))
          (h.all_data hcanonical w hw)).2 ⟨hplain w hw, hroom⟩
      show (Json.read w.text).toOption = some d ↔ some w = some d
      rw [hback]
      rfl

/-- **An error keeps everything that the server said.** The value that a server sends as an error is
one that a reader of JSON has room for, and its numbers are integers.

* If it describes an error, then the error holds the code, the message and the data, and `null` is
  no data, exactly if the data are plain.
* Only such a value becomes an error with a code. If nothing is embedded in the value, as in all
  that is read, then it becomes one exactly if it describes an error with plain data.
* Otherwise it is kept as it is, without a code or data. The message is the value itself if that is
  a string, and else a text from which the value is read again, exactly if it is plain.
* The error is shown with its message at the end. -/
theorem ofJson_keeps (hcanonical : v.IsCanonical) (hintegral : v.IsIntegral)
    (hdepth : v.depth ≤ Json.greatestDepth) :
    (∀ code message data, Describes v code message data →
      ((ofJson v).Holds code message data ↔ ∀ d ∈ data, d.IsPlain)) ∧
    ((∃ code message text, ofJson v = .object code message text) →
      ∃ code message data, Describes v code message data) ∧
    (v.EmbedsNothing → ((∃ code message text, ofJson v = .object code message text) ↔
      ∃ code message data, Describes v code message data ∧ ∀ d ∈ data, d.IsPlain)) ∧
    ((¬∃ code message text, ofJson v = .object code message text) →
      ofJson v = .bare v ∧ (ofJson v).code = none ∧ (ofJson v).data = none ∧
        (∀ s, v = .string s → (ofJson v).message = s) ∧
        ((∀ s, v ≠ .string s) → (Json.read (ofJson v).message = .ok v ↔ v.IsPlain))) ∧
    ∃ before, (ofJson v).shown = before ++ (ofJson v).message := by
  have hunique := hcanonical.hasUniqueNames
  have hobject : (∃ code message text, ofJson v = .object code message text) →
      ∃ code message data kept, Describes v code message data ∧
        decodeData (data.getD .null) = .ok kept := by
    rintro ⟨code, message, text, hobject⟩
    by_contra hnone
    rw [ofJson_eq_bare hunique fun code message data kept h hkept ↦
      hnone ⟨code, message, data, kept, h, hkept⟩] at hobject
    cases hobject
  refine ⟨fun code message data h ↦ h.holds_iff hcanonical hintegral hdepth, fun h ↦ ?_,
    fun hembeds ↦ ⟨fun h ↦ ?_, ?_⟩, fun hnot ↦ ?_, message_suffix_shown _⟩
  · obtain ⟨code, message, data, -, h, -⟩ := hobject h
    exact ⟨code, message, data, h⟩
  · obtain ⟨code, message, data, kept, h, hkept⟩ := hobject h
    refine ⟨code, message, data, h, fun d hd ↦ ?_⟩
    rw [Option.mem_def.1 hd] at hkept
    exact isPlain_of_decodeData hkept (h.all_data hembeds d hd)
  · rintro ⟨code, message, data, h, hplain⟩
    obtain ⟨⟨text, hkept⟩, -⟩ := (h.holds_iff hcanonical hintegral hdepth).2 hplain
    exact ⟨code, message, text, hkept⟩
  · have hbare : ofJson v = .bare v := by
      refine ofJson_eq_bare hunique fun code message data kept h hkept ↦ hnot ?_
      exact ⟨code, message, _, ofJson_of_describes hunique h hkept⟩
    rw [hbare]
    refine ⟨rfl, rfl, rfl, ?_, fun hstring ↦ ?_⟩
    · rintro s rfl
      rfl
    · have htext : message (.bare v) = v.text := by
        cases v with
        | string s => exact absurd rfl (hstring s)
        | null | bool | number | array | object => rfl
      rw [htext, Json.read_eq_ok_iff (Json.isTextOf_text hintegral) hcanonical,
        and_iff_left hdepth]

/-- An error with a code that the protocol reserves, data, and a member more. -/
def methodNotFound : Json :=
  .object [("code", .number (.negative ⟨32600, by decide⟩)),
    ("data", .object [("retry", .bool false)]), ("message", .string "no method x"),
    ("more", .array [.ofNat 1])]

theorem ofJson_keeps_methodNotFound :
    methodNotFound.IsCanonical ∧ methodNotFound.IsIntegral ∧
      methodNotFound.depth ≤ Json.greatestDepth ∧
      (ofJson methodNotFound).Holds (-32601) "no method x"
        (some (.object [("retry", .bool false)])) := by
  have hcanonical : methodNotFound.IsCanonical :=
    ⟨by decide, trivial, ⟨by decide, trivial, trivial⟩, trivial, ⟨trivial, trivial, trivial⟩,
      trivial⟩
  have hintegral : methodNotFound.IsIntegral :=
    ⟨trivial, trivial, ⟨trivial, trivial, trivial⟩, trivial, ⟨trivial, trivial, trivial⟩, trivial⟩
  have hdepth : methodNotFound.depth ≤ Json.greatestDepth := by decide
  have hdescribes : Describes methodNotFound (-32601) "no method x"
      (some (.object [("retry", .bool false)])) :=
    .object (.head _) ⟨_, rfl, rfl, by decide⟩ (.tail _ (.tail _ (.head _)))
      (by simp [eq_comm])
  refine ⟨hcanonical, hintegral, hdepth,
    ((ofJson_keeps hcanonical hintegral hdepth).1 _ _ _ hdescribes).2 fun d hd ↦ ?_⟩
  rw [← Option.mem_some_iff.1 hd]
  exact ⟨by decide, trivial, trivial⟩

/-- Data whose first member has the reserved name. -/
def reservedData : Json :=
  .object [("$serde_json::private::RawValue", .string "5"), ("z", .ofNat 1)]

/-- The code and the message are not kept, because the data cannot be. -/
theorem ofJson_reservedData :
    let v : Json := .object [("code", .ofNat 1), ("data", reservedData), ("message", .string "m")]
    v.IsCanonical ∧ v.IsIntegral ∧ v.depth ≤ Json.greatestDepth ∧
      Describes v 1 "m" (some reservedData) ∧ ofJson v = .bare v := by
  intro v
  have hcanonical : v.IsCanonical :=
    ⟨by decide, trivial, ⟨by decide, trivial, trivial, trivial⟩, trivial, trivial⟩
  have hdescribes : Describes v 1 "m" (some reservedData) :=
    .object (.head _) ⟨_, rfl, rfl, by decide⟩ (.tail _ (.tail _ (.head _))) (by simp [eq_comm])
  refine ⟨hcanonical, ⟨trivial, trivial, ⟨trivial, trivial, trivial, trivial⟩, trivial, trivial⟩,
    by decide, hdescribes, ?_⟩
  refine ofJson_eq_bare hcanonical.hasUniqueNames fun code message data kept h hkept ↦ ?_
  obtain ⟨-, -, rfl⟩ := hdescribes.unique hcanonical.hasUniqueNames h
  have hplain : reservedData.IsPlain :=
    isPlain_of_decodeData hkept ⟨trivial, trivial, trivial, trivial⟩
  exact hplain.1 (by decide)

end RemoteError

end LspClient
