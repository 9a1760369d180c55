import LspClient.Proofs.Json.Sorting
import LspClient.Proofs.Message.Accepted

/-!
# What a response keeps

What every member and every element of a record maintains of its state holds of the record that is
read (`Maintains.of_read`). So what holds of every value that is read holds of the result and of the
error of a response (`Response.record_maintains`): the result, for one, has the members of its
objects in ascending order, whatever the text of the response looks like
(`Response.isCanonical_of_parse`).
-/

namespace LspClient

open Json

namespace Json.TextRecord

variable {σ : Type} {record : TextRecord σ} {P : σ → Prop} {state state' : σ} {s r : List Char}
  {first : Bool}

/-- Taking in a member or an element keeps what holds of the state. -/
structure Maintains (record : TextRecord σ) (P : σ → Prop) : Prop where
  start : P record.start
  member : ∀ state name s state' r, P state →
    strip (record.member state name s) = .ok (state', r) → P state'
  element : ∀ state place read s state' r, P state → record.element state place = some read →
    strip (read s) = .ok (state', r) → P state'

/-- What every member keeps up, members keep up. -/
theorem Maintains.of_readMembers (h : record.Maintains P) (hstate : P state)
    (hread : strip (record.readMembers first state s) = .ok (state', r)) : P state' := by
  -- behind each member less of the text is left
  induction hm : s.length using Nat.strongRecOn generalizing s first state with
  | ind m ih =>
    rcases ahead_of_readMembers hread with ⟨r', hend⟩ | ⟨t, hahead⟩
    · rw [strip_readMembers_end first hend] at hread
      cases hread
      exact hstate
    · rw [strip_readMembers_member hahead] at hread
      obtain ⟨⟨state₁, u⟩, hmember, hrest⟩ := exists_of_bind_eq_ok hread
      have hlt := hahead.length_lt
      obtain ⟨hshort, -⟩ := strip_eq_ok.1 hmember
      obtain ⟨name, w, hname⟩ := stringTail_of_readMember hmember
      rw [strip_readMember hname] at hmember
      exact ih u.length (by omega) (h.member _ _ _ _ _ hstate hmember) hrest rfl

/-- What every element keeps up, elements keep up. -/
theorem Maintains.of_readElements (h : record.Maintains P) (hstate : P state) {place : Nat}
    (hread : strip (record.readElements place state s) = .ok (state', r)) : P state' := by
  -- behind each element less of the text is left
  induction hm : s.length using Nat.strongRecOn generalizing s place state with
  | ind m ih =>
    rcases begins_of_readElements hread with ⟨r', hend⟩ | ⟨read, c, t, helement, hbegins, hc⟩
    · rw [strip_readElements_end hend] at hread
      cases hread
      exact hstate
    · rw [strip_readElements_item helement hbegins hc] at hread
      obtain ⟨⟨state₁, u⟩, hvalue, hrest⟩ := exists_of_bind_eq_ok hread
      have hlength := hbegins.length_le
      obtain ⟨hshort, -⟩ := strip_eq_ok.1 hvalue
      exact ih u.length (by omega) (h.element _ _ _ _ _ _ hstate helement hvalue) hrest rfl

/-- What is maintained holds of the record that is read. -/
theorem Maintains.of_read (h : record.Maintains P) {text : List Char}
    (hread : record.read text = .ok state) : P state := by
  obtain ⟨s, htext | htext⟩ := opening_of_read hread
  · rw [read_array htext] at hread
    obtain ⟨⟨state', r⟩, helements, hfinish⟩ := exists_of_bind_eq_ok hread
    exact (finish_eq_ok hfinish).1 ▸ h.of_readElements h.start helements
  · rw [read_object htext] at hread
    obtain ⟨⟨state', r⟩, hmembers, hfinish⟩ := exists_of_bind_eq_ok hread
    exact (finish_eq_ok hfinish).1 ▸ h.of_readMembers h.start hmembers

end Json.TextRecord

/-- A value that is not `null` is read as it is where `null` may stand. -/
theorem Json.strip_of_orNull {α : Type} {read : (s : List Char) → Json.Reading α s}
    {s r : List Char} {v : α} (h : strip (orNull read s) = .ok (some v, r)) :
    strip (read s) = .ok (v, r) := by
  rw [orNull] at h
  split at h
  case h_1 => split at h <;> cases h
  case h_2 =>
    rw [strip_map] at h
    obtain ⟨⟨w, r'⟩, hw, heq⟩ := exists_of_map_eq_ok h
    cases heq
    exact hw

namespace Response

variable {s r : List Char} {p : Json → Prop} {parts parts' : Parts}

/-- A condition holds of the result and of the error, as far as they are there. -/
structure Parts.Hold (p : Json → Prop) (parts : Parts) : Prop where
  result : ∀ v ∈ parts.result, p v
  error : ∀ v ∈ parts.error.join, p v

/-- What a reading puts into the parts is told by what is read. -/
theorem Parts.Hold.of_strip_map {α : Type} {x : Json.Reading α s} {f : α → Parts}
    (h : strip (x.map (·.map f)) = .ok (parts', r))
    (hf : ∀ a, strip x = .ok (a, r) → (f a).Hold p) : parts'.Hold p := by
  rw [strip_map] at h
  obtain ⟨⟨a, r'⟩, ha, heq⟩ := exists_of_map_eq_ok h
  cases heq
  exact hf a ha

theorem Parts.Hold.with_id (h : parts.Hold p) (id : Option Id) : { parts with id }.Hold p :=
  ⟨h.result, h.error⟩

theorem Parts.Hold.with_result (h : parts.Hold p) {v : Json} (hv : p v) :
    { parts with result := some v }.Hold p :=
  ⟨fun _ hw ↦ Option.some.inj hw ▸ hv, h.error⟩

theorem Parts.Hold.with_error (h : parts.Hold p) {v : Option Json} (hv : ∀ w ∈ v, p w) :
    { parts with error := some v }.Hold p :=
  ⟨h.result, hv⟩

/-- What holds of every value that is read holds of the result and of the error. -/
theorem record_maintains
    (hp : ∀ {s r v}, strip (readValue true innerDepth s) = .ok (v, r) → p v) :
    record.Maintains (Parts.Hold p) where
  start := ⟨nofun, nofun⟩
  member parts name s parts' r hparts h := by
    change strip (readMember parts name s) = _ at h
    simp only [readMember] at h
    split at h
    · split at h
      case isTrue => cases h
      case isFalse => exact .of_strip_map h fun _ _ ↦ hparts.with_id _
    split at h
    · split at h
      case isTrue => cases h
      case isFalse =>
        refine .of_strip_map h fun v hv ↦ hparts.with_result ?_
        obtain ⟨u, -, hread⟩ := exists_of_afterColon hv
        exact hp hread
    split at h
    · split at h
      case isTrue => cases h
      case isFalse =>
        refine .of_strip_map h fun v hv ↦ hparts.with_error ?_
        rintro w rfl
        obtain ⟨u, -, hread⟩ := exists_of_afterColon hv
        exact hp (strip_of_orNull hread)
    · exact .of_strip_map h fun _ _ ↦ hparts
  element parts place read s parts' r hparts helement h := by
    change readElement parts place = some read at helement
    rw [readElement.eq_def] at helement
    split at helement
    case h_1 =>
      cases helement
      exact .of_strip_map h fun _ _ ↦ hparts.with_id _
    case h_2 =>
      cases helement
      exact .of_strip_map h fun v hv ↦ hparts.with_result (hp hv)
    case h_3 =>
      cases helement
      refine .of_strip_map h fun v hv ↦ hparts.with_error ?_
      rintro w rfl
      exact hp (strip_of_orNull hv)
    case h_4 => cases helement

/-- The result of a response is canonical. -/
theorem isCanonical_of_parse {body : String} {id : Id} {v : Json}
    (h : parse body = .ok ⟨id, .result v⟩) : v.IsCanonical := by
  rw [parse] at h
  cases hread : record.read body.toList with
  | error fault =>
    rw [hread] at h
    cases h
  | ok parts =>
    rw [hread] at h
    have hparts := (record_maintains isCanonical_of_readValue).of_read hread
    simp only [Parts.response.eq_def] at h
    split at h <;> cases h
    exact hparts.result v (by assumption)

end Response

end LspClient
