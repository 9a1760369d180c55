import LspClient.Proofs.Json.Saying

/-!
# What a record takes in

A record is read from a text by what it takes in of each member or element in turn. If that is known
of single members and elements, whatever texts say their values (`Intake`), then the record is what
it takes in of all members of an object one after another, or of all elements of an array by their
places, and it is read from nothing else (`TextRecord.read_object_of_says`, `read_array_of_says`,
`read_eq_none_of_says`). Why a text is refused is left out here.
-/

namespace LspClient.Json

variable {s t value behind rest : List Char} {v : Json} {first : Bool}

theorem toOption_bind {ε α β : Type} (x : Except ε α) (f : α → Except ε β) :
    (x.bind f).toOption = x.toOption.bind fun a ↦ (f a).toOption := by
  cases x <;> rfl

theorem toOption_map {ε α β : Type} (x : Except ε α) (f : α → β) :
    (x.map f).toOption = x.toOption.map f := by
  cases x <;> rfl

/-- What is to be known of a record: how members and elements move its state on, none being for
those that are refused, and of which values that is known. -/
structure Intake (σ : Type) where
  /-- What a member makes of the state. -/
  member : σ → String × Json → Option σ
  /-- What an element makes of the state, by its place. -/
  element : σ → Json × Nat → Option σ
  /-- The members that this is known of. -/
  knows : String × Json → Prop
  /-- The elements that this is known of. -/
  knowsAt : Json × Nat → Prop

namespace TextRecord

variable {σ : Type} {record : TextRecord σ} {state : σ} {intake : Intake σ}

/-- A record takes in members and elements as they are said to be, whatever texts say their
values. -/
structure Takes (record : TextRecord σ) (intake : Intake σ) : Prop where
  member : ∀ (state : σ) {cs value : List Char} {v : Json} (after between : Blank)
    {behind : List Char}, Says .value value v → intake.knows (.ofList cs, v) → Stops behind →
    (strip (record.member state cs
      (after.chars ++ ':' :: (between.chars ++ (value ++ behind))))).toOption =
        (intake.member state (.ofList cs, v)).map (·, behind)
  element : ∀ (state : σ) (place : Nat) {read : (s : List Char) → Reading σ s} {value : List Char}
    {v : Json} {behind : List Char}, record.element state place = some read → Says .value value v →
    intake.knowsAt (v, place) → Stops behind →
    (strip (read (value ++ behind))).toOption = (intake.element state (v, place)).map (·, behind)
  no_element : ∀ (state : σ) (place : Nat) (v : Json), record.element state place = none →
    intake.element state (v, place) = none

/-! ### Members -/

/-- A member is taken in, and reading goes on behind it. -/
theorem Takes.readMembers_member (h : record.Takes intake) {before after between : Blank}
    {cs name : List Char} (hname : Spells cs name) (hv : Says .value value v)
    (hfollows : Follows first t (memberText before name after between value ++ behind))
    (hbehind : Stops behind) (hknows : intake.knows (.ofList cs, v)) (state : σ) :
    (strip (record.readMembers first state t)).toOption =
      (intake.member state (.ofList cs, v)).bind fun state' ↦
        (strip (record.readMembers false state' behind)).toOption := by
  have hstring := stringTail_append hname []
    (after.chars ++ ':' :: (between.chars ++ (value ++ behind)))
  rw [List.reverse_nil, List.nil_append] at hstring
  rw [strip_readMembers_member hfollows.ahead, toOption_bind, strip_readMember hstring,
    h.member state after between hv hknows hbehind]
  cases intake.member state (.ofList cs, v) <;> rfl

/-- The members of an object are taken in one after another. -/
theorem Takes.readMembers_of_says (h : record.Takes intake) {ms : Members}
    (hs : Says .members s (.object ms)) (hknows : ∀ m ∈ ms, intake.knows m)
    (hfollows : Follows first t (s ++ '}' :: rest)) (state : σ) :
    (strip (record.readMembers first state t)).toOption =
      (ms.foldlM intake.member state).map (·, rest) := by
  induction ms generalizing s first t state with
  | nil => cases hs
  | cons m ms ih =>
    obtain ⟨hm, hms⟩ := List.forall_mem_cons.1 hknows
    cases hs with
    | member before hname after between hv behind =>
      rw [List.append_assoc] at hfollows
      rw [h.readMembers_member hname hv hfollows (stops_of_blank behind (by decide) rest) hm,
        List.foldlM_cons]
      cases intake.member state _ with
      | none => rfl
      | some state' =>
        show (strip (record.readMembers false state' _)).toOption = _
        rw [strip_readMembers_end false (skipSpace_mark (by decide) behind rest)]
        rfl
    | @members before cs name hname after between value v hv behind u _ hu =>
      rw [List.append_assoc, List.append_assoc, List.cons_append] at hfollows
      rw [h.readMembers_member hname hv hfollows (stops_of_blank behind (by decide) _) hm,
        List.foldlM_cons]
      cases intake.member state _ with
      | none => rfl
      | some state' => exact ih hu hms (follows_next behind _) state'

/-! ### Elements -/

/-- Where the record has no more places, only the end of the array may follow. -/
theorem toOption_readArrayEnd (hs : ∀ r, skipSpace t ≠ ']' :: r) :
    (strip (readArrayEnd state t)).toOption = none := by
  rw [readArrayEnd]
  grind [strip, Except.map, Except.toOption]

/-- An element is taken in, and reading goes on behind it. -/
theorem Takes.readElements_element (h : record.Takes intake) {place : Nat} {before : Blank}
    (hv : Says .value value v)
    (hfollows : Follows (decide (place = 0)) t (before.chars ++ (value ++ behind)))
    (hbehind : Stops behind) (hknows : intake.knowsAt (v, place)) (state : σ) :
    (strip (record.readElements place state t)).toOption =
      (intake.element state (v, place)).bind fun state' ↦
        (strip (record.readElements (place + 1) state' behind)).toOption := by
  obtain ⟨c, r, hcons, -, hc, -⟩ := hv.derives.exists_cons
  have hbegins := hfollows.begins (hv.derives.skipSpace_append before behind)
  cases hread : record.element state place with
  | none =>
    rw [h.no_element state place v hread, readElements.eq_def]
    simp only [hread]
    rw [hcons, List.cons_append] at hbegins
    exact toOption_readArrayEnd (hbegins.skipSpace_ne hc)
  | some read =>
    have htake := h.element state place hread hv hknows hbehind
    rw [hcons, List.cons_append] at hbegins htake
    rw [strip_readElements_item hread hbegins hc, toOption_bind, htake]
    cases intake.element state (v, place) <;> rfl

/-- The elements of an array are taken in one after another. -/
theorem Takes.readElements_of_says (h : record.Takes intake) {xs : List Json} {place : Nat}
    (hs : Says .elements s (.array xs)) (hknows : ∀ x ∈ xs.zipIdx place, intake.knowsAt x)
    (hfollows : Follows (decide (place = 0)) t (s ++ ']' :: rest)) (state : σ) :
    (strip (record.readElements place state t)).toOption =
      ((xs.zipIdx place).foldlM intake.element state).map (·, rest) := by
  induction xs generalizing s place t state with
  | nil => cases hs
  | cons x xs ih =>
    rw [List.zipIdx_cons] at hknows ⊢
    obtain ⟨hx, hxs⟩ := List.forall_mem_cons.1 hknows
    cases hs with
    | element before hv after =>
      rw [List.append_assoc, List.append_assoc] at hfollows
      rw [h.readElements_element hv hfollows (stops_of_blank after (by decide) rest) hx,
        List.foldlM_cons]
      cases intake.element state _ with
      | none => rfl
      | some state' =>
        show (strip (record.readElements (place + 1) state' _)).toOption = _
        rw [strip_readElements_end (skipSpace_mark (by decide) after rest)]
        rfl
    | @elements before value v hv after u _ hu =>
      rw [List.append_assoc, List.append_assoc, List.append_assoc, List.cons_append] at hfollows
      rw [h.readElements_element hv hfollows (stops_of_blank after (by decide) _) hx,
        List.foldlM_cons]
      cases intake.element state _ with
      | none => rfl
      | some state' =>
        refine ih hu hxs ?_ state'
        rw [decide_eq_false (Nat.succ_ne_zero place)]
        exact follows_next after _

/-! ### Whole texts -/

/-- Blanks are no more than an end. -/
theorem finish_blank (state : σ) (b : Blank) : finish (state, b.chars) = .ok state := by
  have hnil := skipSpace_append b []
  rw [List.append_nil] at hnil
  simp only [finish, hnil]
  rfl

theorem Takes.read_object_of_says (h : record.Takes intake) {before behind : Blank} {ms : Members}
    (hs : Says .value s (.object ms)) (hknows : ∀ m ∈ ms, intake.knows m) :
    (record.read (before.chars ++ (s ++ behind.chars))).toOption =
      ms.foldlM intake.member record.start := by
  cases hs with
  | noMembers b =>
    rw [read_object (skipSpace_enclosed (by decide) before b.chars behind.chars),
      strip_readMembers_end true (skipSpace_mark (by decide) b behind.chars)]
    show (finish (record.start, behind.chars)).toOption = _
    rw [finish_blank]
    rfl
  | object hs =>
    rw [read_object (skipSpace_enclosed (by decide) before _ behind.chars), toOption_bind,
      h.readMembers_of_says hs hknows (follows_first _)]
    cases ms.foldlM intake.member record.start with
    | none => rfl
    | some state =>
      show (finish (state, behind.chars)).toOption = _
      rw [finish_blank]
      rfl

theorem Takes.read_array_of_says (h : record.Takes intake) {before behind : Blank} {xs : List Json}
    (hs : Says .value s (.array xs)) (hknows : ∀ x ∈ xs.zipIdx, intake.knowsAt x) :
    (record.read (before.chars ++ (s ++ behind.chars))).toOption =
      xs.zipIdx.foldlM intake.element record.start := by
  cases hs with
  | noElements b =>
    rw [read_array (skipSpace_enclosed (by decide) before b.chars behind.chars),
      strip_readElements_end (skipSpace_mark (by decide) b behind.chars)]
    show (finish (record.start, behind.chars)).toOption = _
    rw [finish_blank]
    rfl
  | array hs =>
    rw [read_array (skipSpace_enclosed (by decide) before _ behind.chars), toOption_bind,
      h.readElements_of_says hs hknows (follows_first _)]
    cases xs.zipIdx.foldlM intake.element record.start with
    | none => rfl
    | some state =>
      show (finish (state, behind.chars)).toOption = _
      rw [finish_blank]
      rfl

/-- Only an object or an array is read as a record. -/
theorem read_eq_none_of_says {before behind : Blank} (hs : Says .value s v)
    (hobject : ∀ ms, v ≠ .object ms) (harray : ∀ xs, v ≠ .array xs) :
    (record.read (before.chars ++ (s ++ behind.chars))).toOption = none := by
  cases hread : record.read (before.chars ++ (s ++ behind.chars)) with
  | error e => rfl
  | ok state =>
    obtain ⟨r, hr⟩ := opening_of_read hread
    rw [hs.derives.skipSpace_append] at hr
    cases hs with
    | array _ => exact absurd rfl (harray _)
    | noElements _ => exact absurd rfl (harray _)
    | object _ => exact absurd rfl (hobject _)
    | noMembers _ => exact absurd rfl (hobject _)
    | natural hs _ =>
      obtain ⟨c, r', rfl, hc⟩ := hs.exists_cons
      rcases hr with hr | hr
      · exact absurd (List.cons.inj hr).1 (ne_of_isDigit hc (by decide))
      · exact absurd (List.cons.inj hr).1 (ne_of_isDigit hc (by decide))
    | nullWord | trueWord | falseWord | negative _ _ | string _ =>
      rcases hr with hr | hr <;> cases hr

end TextRecord

end LspClient.Json
