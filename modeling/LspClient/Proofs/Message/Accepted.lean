import LspClient.Message.Response
import LspClient.Proofs.Json.Soundness

/-!
# What is read as a message

Both records that are read from a message, the response and the method of the server's own messages,
accept texts of the grammar only. A message that is no such text is therefore no message of the
server's own (`isServerMessage_of_not_isText`), and as a response it is malformed
(`Response.parse_of_not_isText`).
-/

namespace LspClient

open Json

variable {s r : List Char}

/-- A reading whose value is replaced takes what it took before. -/
theorem exists_of_strip_map {α β : Type} {x : Reading α s} {f : α → β} {b : β}
    (h : strip (x.map (·.map f)) = .ok (b, r)) : ∃ a, strip x = .ok (a, r) := by
  rw [strip_map] at h
  obtain ⟨⟨a, r'⟩, ha, hr⟩ := exists_of_map_eq_ok h
  cases hr
  exact ⟨a, ha⟩

theorem Json.Accepts.map {α β : Type} {read : (s : List Char) → Reading α s} (h : Accepts read)
    (f : α → β) : Accepts fun s ↦ (read s).map (·.map f) := by
  intro s b r hread
  obtain ⟨a, ha⟩ := exists_of_strip_map hread
  exact h s a r ha

/-- A member that is read once, and is a fault when it is there again, is a value after a colon. -/
theorem Json.Accepts.once {α β : Type} {read : (s : List Char) → Reading α s} (hread : Accepts read)
    {known : Bool} {e : Fault} {f : α → β} {b : β}
    (h : strip (if known then .error e else (Json.afterColon read s).map (·.map f)) = .ok (b, r)) :
    ∃ u, skipSpace s = ':' :: u ∧ HasValue u r := by
  split at h
  case isTrue => cases h
  case isFalse =>
    obtain ⟨_, h⟩ := exists_of_strip_map h
    exact hread.afterColon h

namespace Response

theorem accepts_readId (leave : List Char → List Char) : Accepts (readId leave) := by
  intro s id r h
  rw [readId] at h
  split at h
  case h_1 => cases h
  case h_2 t ht =>
    have hvalue : HasValue s t.rest :=
      (accepts_readValue false innerDepth).orNull s t.value t.rest (by rw [ht]; rfl)
    split at h
    case h_1 => cases h; exact hvalue
    case h_2 =>
      split at h
      case h_1 => cases h; exact hvalue
      case h_2 => cases h

/-- A response is read from a text only. -/
theorem record_isSound : record.IsSound where
  member parts name s parts' r h := by
    have hvalue := accepts_readValue true innerDepth
    change strip (readMember parts name s) = _ at h
    rw [readMember] at h
    split at h
    · exact (accepts_readId afterObject).once h
    split at h
    · exact hvalue.once h
    split at h
    · exact hvalue.orNull.once h
    · obtain ⟨_, h⟩ := exists_of_strip_map h
      exact accepts_skipValue.afterColon h
  element parts place read h := by
    have hvalue := accepts_readValue true innerDepth
    change readElement parts place = some read at h
    rw [readElement.eq_def] at h
    split at h
    case h_1 => cases h; exact (accepts_readId afterArray).map _
    case h_2 => cases h; exact hvalue.map _
    case h_3 => cases h; exact hvalue.orNull.map _
    case h_4 => cases h

/-- What is no text is malformed. -/
theorem parse_of_not_isText {body : String} (h : ¬ IsText body.toList) :
    ∃ fault, parse body = .error (.malformed body fault) := by
  rw [parse]
  cases hread : record.read body.toList with
  | ok parts => exact absurd (record_isSound.isText_of_read hread) h
  | error fault => exact ⟨fault, rfl⟩

end Response

/-- The method of a message is read from a text only. -/
theorem methodRecord_isSound : methodRecord.IsSound where
  member state name s state' r h := by
    simp only [methodRecord] at h
    split at h
    · exact accepts_skipValue.orNull.once h
    · obtain ⟨_, h⟩ := exists_of_strip_map h
      exact accepts_skipValue.afterColon h
  element state place read h := by
    simp only [methodRecord] at h
    split at h
    case isTrue => cases h; exact accepts_skipValue.orNull.map _
    case isFalse => cases h

/-- What is no text is no message of the server's own. -/
theorem isServerMessage_of_not_isText {message : String} (h : ¬ IsText message.toList) :
    isServerMessage message = false := by
  rw [isServerMessage]
  cases hread : methodRecord.read message.toList with
  | ok state => exact absurd (methodRecord_isSound.isText_of_read hread) h
  | error fault => rfl

end LspClient
