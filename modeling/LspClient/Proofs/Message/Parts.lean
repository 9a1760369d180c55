import LspClient.Message.Response
import LspClient.Proofs.Json.Taking

/-!
# The parts of a response

A response is read from a text by putting its members together one after another (`Parts.take`), or
its elements by their places (`Parts.putAt`). Unknown members count for nothing, and a known one
that is there again is refused, as is an id of the wrong shape (`Response.takes`).
-/

namespace LspClient

open Json

variable {s rest behind : List Char} {v : Json}

/-- A value, unless it is `null`. -/
def Json.nonNull? : Json → Option Json
  | .null => none
  | v => some v

theorem Json.eq_null_of_nonNull? (h : v.nonNull? = none) : v = .null := by
  cases v with
  | null => rfl
  | bool b => cases h
  | number n => cases h
  | string s => cases h
  | array xs => cases h
  | object ms => cases h

/-! ### Values that may be `null` -/

/-- Only the word `null` begins with its first letter. -/
theorem Json.Says.cases_null (h : Says .value s v) :
    s = ['n', 'u', 'l', 'l'] ∧ v.nonNull? = none ∨
      ∃ c r, s = c :: r ∧ c ≠ 'n' ∧ v.nonNull? = some v := by
  cases h with
  | nullWord => exact .inl ⟨rfl, rfl⟩
  | natural hs _ =>
    obtain ⟨c, r, rfl, hc⟩ := hs.exists_cons
    exact .inr ⟨c, r, rfl, ne_of_isDigit hc (by decide), rfl⟩
  | trueWord | falseWord | negative _ _ | string _ | noElements _ | array _ | noMembers _
  | object _ =>
    exact .inr ⟨_, _, rfl, by decide, rfl⟩

/-- A value that may be `null` is read unless it is. -/
theorem Json.Says.strip_orNull {α : Type} {read : (s : List Char) → Reading α s} {w : α} {b : Blank}
    (h : Says .value s v) (hread : strip (read (b.chars ++ (s ++ rest))) = .ok (w, rest)) :
    strip (orNull read (b.chars ++ (s ++ rest))) = .ok (v.nonNull?.map fun _ ↦ w, rest) := by
  have hskip := h.derives.skipSpace_append b rest
  rcases h.cases_null with ⟨rfl, hv⟩ | ⟨c, r, rfl, hc, hv⟩
  · rw [hv]
    exact strip_eq_ok.2 (orNull_null hskip)
  · rw [hv]
    exact strip_eq_ok.2 (orNull_some hskip hc (strip_eq_ok.1 hread))

namespace Response

/-- An id keeps its shape in order. -/
theorem ofJson?_sorted (v : Json) : Id.ofJson? v.sorted = Id.ofJson? v := by
  cases v <;> simp only [sorted, Id.ofJson?]

/-- An id is read if it has the shape of one. -/
theorem toOption_readId (h : Says .value s v) (hfits : Fits false innerDepth v) (hrest : Stops rest)
    (leave : List Char → List Char) (b : Blank) :
    (strip (readId leave (b.chars ++ (s ++ rest)))).toOption = (Id.ofJson? v).map (·, rest) := by
  have hread := h.strip_orNull (h.strip_readValue hfits b hrest)
  obtain ⟨hlt, hread⟩ := strip_eq_ok.1 hread
  cases hnull : v.nonNull? with
  | none =>
    obtain rfl := eq_null_of_nonNull? hnull
    rw [hnull] at hread
    simp only [readId, hread]
    rfl
  | some w =>
    rw [hnull] at hread
    simp only [readId, hread, Option.map_some, ofJson?_sorted]
    cases Id.ofJson? v <;> rfl

/-! ### Members -/

/-- The members that count, in the order in which an array has them. -/
def names : List String :=
  ["id", "result", "error"]

namespace Parts

/-- Puts in a member; none if it is an id of the wrong shape. -/
def put (parts : Parts) (m : String × Json) : Option Parts :=
  if m.1 = "id" then (Id.ofJson? m.2).map fun id ↦ { parts with id := some id }
  else if m.1 = "result" then some { parts with result := some m.2.sorted }
  else if m.1 = "error" then some { parts with error := some (m.2.nonNull?.map fun _ ↦ m.2.sorted) }
  else some parts

/-- Whether a member of that name is there. -/
def has (parts : Parts) (name : String) : Bool :=
  if name = "id" then parts.id.isSome
  else if name = "result" then parts.result.isSome
  else if name = "error" then parts.error.isSome
  else false

/-- Takes in a member, unless one of that name is there. -/
def take (parts : Parts) (m : String × Json) : Option Parts :=
  if parts.has m.1 then none else parts.put m

theorem take_id (parts : Parts) (v : Json) : parts.take ("id", v) =
    if parts.id.isSome then none
    else (Id.ofJson? v).map fun id ↦ { parts with id := some id } := by
  simp only [take, has, put, if_true]

theorem take_result (parts : Parts) (v : Json) : parts.take ("result", v) =
    if parts.result.isSome then none else some { parts with result := some v.sorted } := by
  simp [take, has, put]

theorem take_error (parts : Parts) (v : Json) : parts.take ("error", v) =
    if parts.error.isSome then none
    else some { parts with error := some (v.nonNull?.map fun _ ↦ v.sorted) } := by
  simp [take, has, put]

/-- Any other member counts for nothing. -/
theorem take_of_not_mem (parts : Parts) {m : String × Json} (h : m.1 ∉ names) :
    parts.take m = some parts := by
  simp only [names, List.mem_cons, List.not_mem_nil, or_false, not_or] at h
  simp [take, has, put, h]

/-- Puts in an element by its place, if there is a member for it. -/
def putAt (parts : Parts) (x : Json × Nat) : Option Parts :=
  names[x.2]?.bind fun name ↦ parts.put (name, x.1)

theorem putAt_zero (parts : Parts) (v : Json) : parts.putAt (v, 0) =
    (Id.ofJson? v).map fun id ↦ { parts with id := some id } := by
  simp [putAt, names, put]

theorem putAt_one (parts : Parts) (v : Json) :
    parts.putAt (v, 1) = some { parts with result := some v.sorted } := by
  simp [putAt, names, put]

theorem putAt_two (parts : Parts) (v : Json) :
    parts.putAt (v, 2) = some { parts with error := some (v.nonNull?.map fun _ ↦ v.sorted) } := by
  simp [putAt, names, put]

/-- There is no fourth place. -/
theorem putAt_of_le (parts : Parts) (v : Json) {place : Nat} (h : 3 ≤ place) :
    parts.putAt (v, place) = none := by
  have hplace : names[place]? = none := List.getElem?_eq_none h
  rw [putAt, hplace]
  rfl

end Parts

/-- The readers have room for a member that counts. Text can be embedded in a result and in an
error. -/
def HasRoom (m : String × Json) : Prop :=
  m.1 ∈ names → Fits (decide (m.1 ≠ "id")) innerDepth m.2

/-- What a response takes in of members and elements. -/
def intake : Intake Parts where
  member := Parts.take
  element := Parts.putAt
  knows := HasRoom
  knowsAt x := ∀ name, names[x.2]? = some name → HasRoom (name, x.1)

theorem ofList_eq_iff {cs : List Char} {name : String} :
    String.ofList cs = name ↔ cs = name.toList := by
  constructor
  · intro h
    rw [← h, String.toList_ofList]
  · intro h
    rw [h, String.ofList_toList]

/-- What is read after a colon is read behind it. -/
theorem toOption_map_afterColon {α β : Type} {read : (s : List Char) → Reading α s} {u : List Char}
    (hs : skipSpace s = ':' :: u) (f : α → β) :
    (strip ((afterColon read s).map (·.map f))).toOption =
      (strip (read u)).toOption.map fun p ↦ (f p.1, p.2) := by
  rw [strip_map, strip_afterColon read hs, toOption_map]

/-- A member that is there already is refused. -/
theorem toOption_once {α β : Type} {read : (s : List Char) → Reading α s} {u : List Char}
    (hs : skipSpace s = ':' :: u) (known : Bool) (e : Fault) (f : α → β) :
    (strip (if known then .error e else (afterColon read s).map (·.map f))).toOption =
      if known then none else (strip (read u)).toOption.map fun p ↦ (f p.1, p.2) := by
  cases known with
  | true => rfl
  | false => exact toOption_map_afterColon hs f

theorem HasRoom.fits {name : String} (h : HasRoom (name, v)) (hname : name ∈ names)
    {embeds : Bool} (hembeds : decide (name ≠ "id") = embeds) : Fits embeds innerDepth v :=
  hembeds ▸ h hname

/-- A member is taken in by its name. -/
theorem toOption_readMember (parts : Parts) {cs : List Char} (after between : Blank)
    (hv : Says .value s v) (hroom : HasRoom (.ofList cs, v)) (hbehind : Stops behind) :
    (strip (readMember parts cs
      (after.chars ++ ':' :: (between.chars ++ (s ++ behind))))).toOption =
        (parts.take (.ofList cs, v)).map (·, behind) := by
  have hcolon := skipSpace_colon after (between.chars ++ (s ++ behind))
  rw [readMember]
  by_cases hid : cs = "id".toList
  · rw [ofList_eq_iff.2 hid] at hroom ⊢
    rw [if_pos hid, toOption_once hcolon, Parts.take_id,
      toOption_readId hv (hroom.fits (by decide) (by decide)) hbehind]
    cases parts.id.isSome <;> cases Id.ofJson? v <;> rfl
  rw [if_neg hid]
  by_cases hresult : cs = "result".toList
  · rw [ofList_eq_iff.2 hresult] at hroom ⊢
    rw [if_pos hresult, toOption_once hcolon, Parts.take_result,
      hv.strip_readValue (hroom.fits (by decide) (by decide)) between hbehind]
    cases parts.result.isSome <;> rfl
  rw [if_neg hresult]
  by_cases herror : cs = "error".toList
  · rw [ofList_eq_iff.2 herror] at hroom ⊢
    rw [if_pos herror, toOption_once hcolon, Parts.take_error, hv.strip_orNull
      (hv.strip_readValue (hroom.fits (by decide) (by decide)) between hbehind)]
    cases parts.error.isSome <;> rfl
  rw [if_neg herror]
  have hother : String.ofList cs ∉ names := by
    simp only [names, List.mem_cons, List.not_mem_nil, or_false, not_or, ofList_eq_iff]
    exact ⟨hid, hresult, herror⟩
  rw [toOption_map_afterColon hcolon, Parts.take_of_not_mem parts hother,
    strip_eq_ok.2 (skipValue_derives hv.derives between hbehind)]
  rfl

/-- An element is taken in by its place. -/
theorem toOption_readElement (parts : Parts) {place : Nat}
    {read : (s : List Char) → Reading Parts s} (hread : readElement parts place = some read)
    (hv : Says .value s v) (hroom : ∀ name, names[place]? = some name → HasRoom (name, v))
    (hbehind : Stops behind) :
    (strip (read (s ++ behind))).toOption = (parts.putAt (v, place)).map (·, behind) := by
  rw [readElement.eq_def] at hread
  split at hread
  case h_1 =>
    cases hread
    have hid := toOption_readId hv ((hroom "id" rfl).fits (by decide) (by decide)) hbehind
      afterArray .none
    rw [strip_map, toOption_map, Parts.putAt_zero]
    refine (congrArg (Option.map _) hid).trans ?_
    cases Id.ofJson? v <;> rfl
  case h_2 =>
    cases hread
    have hfits : Fits true innerDepth v := (hroom "result" rfl).fits (by decide) (by decide)
    have hresult := hv.strip_readValue hfits .none hbehind
    rw [strip_map, toOption_map, Parts.putAt_one]
    exact congrArg (fun x ↦ Option.map _ (Except.toOption x)) hresult
  case h_3 =>
    cases hread
    have hfits : Fits true innerDepth v := (hroom "error" rfl).fits (by decide) (by decide)
    have herror := hv.strip_orNull (hv.strip_readValue hfits .none hbehind)
    rw [strip_map, toOption_map, Parts.putAt_two]
    exact congrArg (fun x ↦ Option.map _ (Except.toOption x)) herror
  case h_4 => cases hread

/-- A response takes in its members and elements so. -/
theorem takes : record.Takes intake where
  member parts _ _ _ after between _ hv hroom hbehind :=
    toOption_readMember parts after between hv hroom hbehind
  element parts _ _ _ _ _ hread hv hroom hbehind :=
    toOption_readElement parts hread hv hroom hbehind
  no_element parts place v hread := by
    change readElement parts place = none at hread
    refine parts.putAt_of_le v (Nat.le_of_not_lt fun hlt ↦ ?_)
    have hplace : place = 0 ∨ place = 1 ∨ place = 2 := by omega
    rcases hplace with rfl | rfl | rfl <;> cases hread

/-! ### Members of a name -/

/-- The values of the members of a name, in their order. -/
def values (name : String) (ms : Members) : List Json :=
  (ms.filter fun m ↦ m.1 = name).map (·.2)

/-- What two lists of members hold under a name, they hold together. -/
theorem values_append (name : String) (ms ns : Members) :
    values name (ms ++ ns) = values name ms ++ values name ns := by
  rw [values, List.filter_append, List.map_append]
  rfl

@[simp]
theorem values_append_self (name : String) (ms : Members) (w : Json) :
    values name (ms ++ [(name, w)]) = values name ms ++ [w] := by
  simp [values]

/-- A member of another name changes nothing under a name. -/
@[simp]
theorem values_append_ne {name other : String} (h : other ≠ name) (ms : Members) (w : Json) :
    values name (ms ++ [(other, w)]) = values name ms := by
  simp [values, h]

/-- Members that can be taken in: no name that counts is there twice, and an id has the shape of
one. -/
structure AreFit (ms : Members) : Prop where
  once : ∀ name ∈ names, (values name ms).length ≤ 1
  id : ∀ w ∈ values "id" ms, (Id.ofJson? w).isSome

theorem AreFit.of_append {ms ns : Members} (h : AreFit (ms ++ ns)) : AreFit ms where
  once name hname := by
    have := h.once name hname
    rw [values_append, List.length_append] at this
    omega
  id w hw := h.id w (by rw [values_append]; exact List.mem_append_left _ hw)

/-- What was made of the values of a member. -/
def IsMadeOf {α : Type} (make : Json → Option α) (x : Option α) (ws : List Json) : Prop :=
  x.toList.map some = ws.map make

namespace IsMadeOf

variable {α : Type} {make : Json → Option α} {x : Option α} {ws : List Json} {w : Json}

theorem length_eq (h : IsMadeOf make x ws) : ws.length = x.toList.length := by
  simpa using (congrArg List.length h).symm

/-- The first value makes it what it is. -/
theorem append (h : IsMadeOf make x ws) (hx : ¬ x.isSome = true) {a : α} (ha : make w = some a) :
    IsMadeOf make (some a) (ws ++ [w]) := by
  have hlength := h.length_eq
  rw [Option.not_isSome_iff_eq_none.1 hx] at hlength
  rw [List.length_eq_zero_iff.1 hlength, IsMadeOf, List.nil_append, List.map_singleton, ha]
  rfl

theorem isSome_of_mem (h : IsMadeOf make x ws) (hw : w ∈ ws) : (make w).isSome = true := by
  have hmem := List.mem_map_of_mem (f := make) hw
  rw [← h] at hmem
  obtain ⟨a, -, ha⟩ := List.mem_map.1 hmem
  rw [← ha]
  rfl

/-- What the first value makes it is all there is. -/
theorem eq_bind (h : IsMadeOf make x ws) : x = ws.head?.bind make := by
  cases ws with
  | nil => exact Option.toList_eq_nil_iff.1 (List.map_eq_nil_iff.1 h)
  | cons w ws =>
    have hhead := congrArg List.head? h
    rw [List.head?_map, Option.head?_toList] at hhead
    cases x with
    | none => cases hhead
    | some a => exact Option.some.inj hhead

/-- A second member of a name that counts makes members unfit. -/
theorem not_areFit {ms : Members} {name : String} (h : IsMadeOf make x (values name ms))
    (hname : name ∈ names) (hx : x.isSome = true) : ¬ AreFit (ms ++ [(name, w)]) := by
  intro hfit
  have honce := hfit.once name hname
  have hlength := h.length_eq
  rw [Option.length_toList, hx] at hlength
  rw [values_append_self, List.length_append, hlength] at honce
  exact absurd honce (Nat.not_succ_le_self 1)

end IsMadeOf

/-- Parts are those of some members. -/
structure Parts.AreOf (parts : Parts) (ms : Members) : Prop where
  id : IsMadeOf Id.ofJson? parts.id (values "id" ms)
  result : IsMadeOf (fun w ↦ some w.sorted) parts.result (values "result" ms)
  error : IsMadeOf (fun w ↦ some (w.nonNull?.map fun _ ↦ w.sorted)) parts.error
    (values "error" ms)

namespace Parts

variable {parts parts' : Parts} {ms : Members} {m : String × Json}

/-- A member that is taken in is one more. -/
theorem AreOf.take_eq_some (h : parts.AreOf ms) (htake : parts.take m = some parts') :
    parts'.AreOf (ms ++ [m]) := by
  obtain ⟨name, w⟩ := m
  by_cases hid : name = "id"
  · subst hid
    rw [take_id] at htake
    split at htake
    case isTrue => cases htake
    case isFalse hnone =>
      obtain ⟨id, hshape, rfl⟩ := Option.map_eq_some_iff.1 htake
      exact ⟨by simpa using h.id.append hnone hshape, by simpa using h.result,
        by simpa using h.error⟩
  by_cases hresult : name = "result"
  · subst hresult
    rw [take_result] at htake
    split at htake
    case isTrue => cases htake
    case isFalse hnone =>
      cases htake
      exact ⟨by simpa using h.id, by simpa using h.result.append hnone rfl,
        by simpa using h.error⟩
  by_cases herror : name = "error"
  · subst herror
    rw [take_error] at htake
    split at htake
    case isTrue => cases htake
    case isFalse hnone =>
      cases htake
      exact ⟨by simpa using h.id, by simpa using h.result,
        by simpa using h.error.append hnone rfl⟩
  · rw [take_of_not_mem parts (by simp [names, hid, hresult, herror])] at htake
    cases htake
    exact ⟨by simpa [hid] using h.id, by simpa [hresult] using h.result,
      by simpa [herror] using h.error⟩

/-- A member that is not taken in makes the members unfit. -/
theorem AreOf.take_eq_none (h : parts.AreOf ms) (htake : parts.take m = none) :
    ¬ AreFit (ms ++ [m]) := by
  obtain ⟨name, w⟩ := m
  by_cases hid : name = "id"
  · subst hid
    rw [take_id] at htake
    split at htake
    case isTrue hsome => exact h.id.not_areFit (by decide) hsome
    case isFalse =>
      intro hfit
      have hmem : w ∈ values "id" (ms ++ [("id", w)]) := by
        rw [values_append_self]
        exact List.mem_append_right _ (List.mem_singleton_self w)
      have hshape := hfit.id w hmem
      rw [Option.map_eq_none_iff.1 htake] at hshape
      cases hshape
  by_cases hresult : name = "result"
  · subst hresult
    rw [take_result] at htake
    split at htake
    case isTrue hsome => exact h.result.not_areFit (by decide) hsome
    case isFalse => cases htake
  by_cases herror : name = "error"
  · subst herror
    rw [take_error] at htake
    split at htake
    case isTrue hsome => exact h.error.not_areFit (by decide) hsome
    case isFalse => cases htake
  · rw [take_of_not_mem parts (by simp [names, hid, hresult, herror])] at htake
    cases htake

/-- Parts are of members that are fit. -/
theorem AreOf.areFit (h : parts.AreOf ms) : AreFit ms where
  once name hname := by
    simp only [names, List.mem_cons, List.not_mem_nil, or_false] at hname
    rcases hname with rfl | rfl | rfl
    · exact h.id.length_eq ▸ Option.length_toList_le
    · exact h.result.length_eq ▸ Option.length_toList_le
    · exact h.error.length_eq ▸ Option.length_toList_le
  id _ hw := h.id.isSome_of_mem hw

/-- Members are all taken in, or they are unfit. -/
theorem AreOf.foldlM (h : parts.AreOf ms) (ns : Members) :
    (∀ parts', ns.foldlM take parts = some parts' → parts'.AreOf (ms ++ ns)) ∧
      (ns.foldlM take parts = none → ¬ AreFit (ms ++ ns)) := by
  induction ns generalizing parts ms with
  | nil =>
    rw [List.append_nil]
    refine ⟨?_, ?_⟩
    · rintro parts' ⟨rfl⟩
      exact h
    · intro hnone
      cases hnone
  | cons m ns ih =>
    rw [List.foldlM_cons, List.append_cons]
    cases htake : parts.take m with
    | none =>
      refine ⟨?_, fun _ hfit ↦ h.take_eq_none htake hfit.of_append⟩
      intro parts' hsome
      cases hsome
    | some next => exact ih (h.take_eq_some htake)

/-- Up to three elements are taken in like members of the names in their order, and there is no
place for a fourth. -/
theorem foldlM_putAt (xs : List Json) : xs.zipIdx.foldlM putAt {} =
    if xs.length ≤ 3 then (names.zip xs).foldlM take {} else none := by
  rcases xs with _ | ⟨a, xs⟩
  · rfl
  -- if the id is refused so is the rest, and otherwise each place finds its part empty
  cases hid : Id.ofJson? a with
  | none => simp [names, putAt_zero, take_id, hid]
  | some id =>
    rcases xs with _ | ⟨b, _ | ⟨c, _ | ⟨d, xs⟩⟩⟩
    · simp [names, putAt_zero, take_id, hid]
    · simp [names, putAt_zero, putAt_one, take_id, take_result, hid]
    · simp [names, putAt_zero, putAt_one, putAt_two, take_id, take_result, take_error, hid]
    · simp [putAt_zero, putAt_one, putAt_two, putAt_of_le, hid]

end Parts

/-! ### Whole responses -/

/-- The members of a response: those of an object, or the elements of an array under the names of
their places. -/
def fields : Json → Members
  | .object ms => ms
  | .array xs => names.zip xs
  | _ => []

/-- A value has the form of a response: it is an object, or an array with a name for every place,
and its members can be taken in. -/
def HasForm : Json → Prop
  | .object ms => AreFit ms
  | .array xs => xs.length ≤ 3 ∧ AreFit (names.zip xs)
  | _ => False

/-- There is room for an element as there is for the member of its place. -/
theorem knowsAt_of_fields {xs : List Json} (hroom : ∀ m ∈ fields (.array xs), HasRoom m) :
    ∀ x ∈ xs.zipIdx, intake.knowsAt x := by
  rintro ⟨x, place⟩ hx name hname
  have hplace : (names.zip xs)[place]? = some (name, x) :=
    List.getElem?_zip_eq_some.2 ⟨hname, List.mk_mem_zipIdx_iff_getElem?.1 hx⟩
  exact hroom _ (List.mem_of_getElem? hplace)

/-- Before the first member nothing has been met. -/
theorem areOf_start : Parts.AreOf {} [] :=
  ⟨rfl, rfl, rfl⟩

/-- **A text is read as a response exactly if what it says has the form of one**, and the parts are
those of its members. -/
theorem read_of_isTextOf {text : List Char} (h : IsTextOf text v)
    (hroom : ∀ m ∈ fields v, HasRoom m) :
    (∀ parts, (record.read text).toOption = some parts →
        HasForm v ∧ parts.AreOf (fields v)) ∧
      ((record.read text).toOption = none → ¬ HasForm v) := by
  obtain ⟨before, s, after, rfl, hs⟩ := h
  have hother (hobject : ∀ ms, v ≠ .object ms) (harray : ∀ xs, v ≠ .array xs) :
      (record.read (before.chars ++ (s ++ after.chars))).toOption = none :=
    TextRecord.read_eq_none_of_says hs hobject harray
  cases v with
  | object ms =>
    rw [takes.read_object_of_says hs hroom]
    obtain ⟨hsome, hnone⟩ := areOf_start.foldlM ms
    exact ⟨fun parts h ↦ ⟨(hsome parts h).areFit, hsome parts h⟩, hnone⟩
  | array xs =>
    rw [takes.read_array_of_says hs (knowsAt_of_fields hroom),
      show xs.zipIdx.foldlM intake.element record.start = _ from Parts.foldlM_putAt xs]
    obtain ⟨hsome, hnone⟩ := areOf_start.foldlM (names.zip xs)
    split
    case isTrue hlength =>
      exact ⟨fun parts h ↦ ⟨⟨hlength, (hsome parts h).areFit⟩, hsome parts h⟩,
        fun h hform ↦ hnone h hform.2⟩
    case isFalse hlength =>
      exact ⟨fun _ h ↦ absurd h.symm (Option.some_ne_none _), fun _ hform ↦ hlength hform.1⟩
  | null | bool _ | number _ | string _ =>
    have hnone := hother (fun _ h ↦ by cases h) (fun _ h ↦ by cases h)
    rw [hnone]
    exact ⟨fun _ h ↦ absurd h.symm (Option.some_ne_none _), fun _ hform ↦ hform⟩

end Response

end LspClient
