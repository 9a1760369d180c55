import LspClient.Proofs.Message.Accepted
import LspClient.Proofs.Transport.Ending
import LspClient.Proofs.Transport.Timeout

/-!
# Streams that end too early

If a stream ends before the frame of an object does, no response is brought back. Where the frame is
cut makes no difference, but the two framings are safe for different reasons
(`Scan.not_isText_of_final`):

* behind a header, the end of the stream is an error wherever it comes. A length whose digits are
  cut is still a length, but the header is not complete; where only the last newline of the header
  is missing the header counts as complete, but the body is missing;
* between line ends, the last line needs no end, so that what there is of it is a message. It is no
  text, and therefore neither a response nor a message of the server's own.
-/

namespace LspClient.Transport

open Json

/-- The bytes that it takes to read a message: its frame, except that a last line needs no end. -/
def Framing.needed (framing : Framing) (message : String) : List UInt8 :=
  match framing with
  | .lines => Utf8.bytes message
  | .contentLength => framing.frame message

namespace Scan

/-! ### Headers that are cut -/

/-- Without a length the end of a line in the header is never the end of a message. -/
theorem headerLine_none_eq_ended {taken : List UInt8} {result : Except Error String}
    (h : headerLine none taken = .ended result) : ∃ e, result = .error e := by
  rw [headerLine] at h
  split at h
  case h_1 e _ => exact ⟨e, (Step.ended.inj h).symm⟩
  case h_2 =>
    split at h
    case h_1 => exact ⟨_, (Step.ended.inj h).symm⟩
    case h_2 =>
      split at h
      case h_1 => cases h
      case h_2 e _ => exact ⟨e, (Step.ended.inj h).symm⟩

/-- A stream that ends before a length is known is an error. -/
theorem exists_final_header_none {p : List UInt8} (h : newline ∉ p) :
    ∃ e, (header none []).final p = .error e := by
  have hfeed : (header none []).feed p = .unfinished (header none p.reverse) := by
    have happend := feed_header_append h none [] []
    rwa [List.append_nil, List.append_nil] at happend
  rw [final_of_unfinished hfeed]
  cases p.reverse with
  | nil => exact ⟨_, rfl⟩
  | cons b taken =>
    rw [close]
    split
    case h_1 result hresult => exact headerLine_none_eq_ended hresult
    case h_2 => exact ⟨_, rfl⟩
    case x_1 =>
      intro hnil
      cases hnil

/-- A carriage return at the end of a stream counts as the empty line. -/
theorem exists_final_lone {length : Nat} (h : 0 < length) :
    ∃ e, (header (some length) []).final (Utf8.encode ['\r']) = .error e := by
  have hreturn : (Utf8.encode ['\r']).reverse = [0x0D] := by decide
  have hfeed : (header (some length) []).feed (Utf8.encode ['\r']) =
      .unfinished (header (some length) [0x0D]) := rfl
  have hline : headerLine (some length) [0x0D] = afterHeader (some length) := by
    rw [← hreturn, headerLine, lineText_encode]
    rfl
  obtain ⟨e, he⟩ := @exists_final_afterHeader length [] h
  rw [final_of_unfinished hfeed, close, hline]
  · cases hafter : afterHeader (some length) with
    | more scan => exact ⟨_, rfl⟩
    | ended result =>
      rw [hafter] at he
      exact ⟨e, he⟩
  · intro hnil
    cases hnil

/-- The front of lines ends in the first of them or goes beyond it. -/
theorem cases_of_prefix_line {p xs ys : List UInt8} (h : p <+: xs ++ newline :: ys) :
    p <+: xs ∨ ∃ q, p = xs ++ newline :: q ∧ q <+: ys := by
  rcases List.prefix_or_prefix_of_prefix h (List.prefix_append xs _) with hxs | ⟨q, rfl⟩
  · exact .inl hxs
  · rcases List.prefix_cons_iff.1 ((List.prefix_append_right_inj xs).1 h) with rfl | ⟨q, rfl, hq⟩
    · exact .inl ⟨[], by rw [List.append_nil, List.append_nil]⟩
    · exact .inr ⟨q, rfl, hq⟩

/-- Behind the line with the length, the rest of the header and fewer bytes than were announced are
an error. -/
theorem exists_final_header_some {body q : List UInt8} (hne : body ≠ [])
    (hfront : q <+: Utf8.encode ['\r'] ++ newline :: body)
    (hcut : q ≠ Utf8.encode ['\r'] ++ newline :: body) :
    ∃ e, (header (some body.length) []).final q = .error e := by
  rcases cases_of_prefix_line hfront with hq | ⟨q, rfl, hq⟩
  · have hreturn : Utf8.encode ['\r'] = [0x0D] := by decide
    rw [hreturn, List.prefix_cons_iff] at hq
    rcases hq with rfl | ⟨q, rfl, hq⟩
    · exact ⟨_, rfl⟩
    · rw [List.prefix_nil.1 hq, ← hreturn]
      exact exists_final_lone (List.length_pos_iff.2 hne)
  · have hlt : q.length < body.length := by
      refine Nat.lt_of_le_of_ne hq.length_le fun hlength ↦ hcut ?_
      rw [hq.eq_of_length hlength]
    rw [final_eq _ (feed_headerLine (by decide) _ q), headerLine_empty]
    exact exists_final_afterHeader hlt

/-- Where the frame of a message behind a header is cut, the end of the stream is an error. -/
theorem exists_final_contentLength {message : String} (hne : Utf8.bytes message ≠ [])
    {p : List UInt8} (hfront : p <+: Framing.contentLength.frame message)
    (hcut : p ≠ Framing.contentLength.frame message) :
    ∃ e, (start .contentLength).final p = .error e := by
  have hframe : Framing.contentLength.frame message =
      Utf8.encode (lengthLine message.utf8ByteSize ++ ['\r']) ++
        newline :: (Utf8.encode ['\r'] ++ newline :: Utf8.bytes message) := by
    rw [frame_contentLength, bytes_header]
    simp only [List.append_assoc, List.cons_append, List.nil_append]
  have hline : newline ∉ Utf8.encode (lengthLine message.utf8ByteSize ++ ['\r']) :=
    newline_not_mem_encode (newline_not_mem_lengthLine _)
  rw [hframe] at hfront hcut
  rcases cases_of_prefix_line hfront with hp | ⟨q, rfl, hq⟩
  · exact exists_final_header_none fun hmem ↦ hline (hp.subset hmem)
  · rw [start, final_eq _ (feed_headerLine hline none q)]
    by_cases hlength : message.utf8ByteSize ≤ greatestNumber
    · rw [headerLine_lengthLine hlength, ← Utf8.length_bytes]
      exact exists_final_header_some hne hq fun heq ↦ hcut (by rw [heq])
    · obtain ⟨e, he⟩ := exists_headerLine_lengthLine (Nat.lt_of_not_le hlength) none
      rw [he]
      exact ⟨e, rfl⟩

/-! ### Lines that are cut -/

/-- A message in a last line is its text, without white space around it. -/
theorem exists_of_close_line {taken : List UInt8} {body : String}
    (h : close (line taken) = .ok body) :
    ∃ s, Utf8.decode taken.reverse = .ok s ∧ body.toList = Text.trim s ∧ Text.trim s ≠ [] := by
  have hmessage : lineMessage taken = .ok (some body) := by
    cases taken with
    | nil => cases h
    | cons b taken =>
      rw [close] at h
      · split at h
        case h_1 hm => cases h; exact hm
        case h_2 => cases h
        case h_3 => cases h
      · intro hnil
        cases hnil
  rw [lineMessage, lineText] at hmessage
  cases hdecode : Utf8.decode taken.reverse with
  | error fault =>
    rw [hdecode] at hmessage
    cases hmessage
  | ok s =>
    rw [hdecode] at hmessage
    have hbody := Except.ok.inj hmessage
    dsimp only at hbody
    refine ⟨s, rfl, ?_⟩
    split at hbody
    case h_1 => cases hbody
    case h_2 hne =>
      cases hbody
      exact ⟨String.toList_ofList, hne⟩

/-- Where an object in a line is cut, what there is of it is an error or no text. -/
theorem not_isText_of_final_lines {s : List Char} {p : List UInt8}
    (hobject : Derives .value ('{' :: s)) (hline : '\n' ∉ '{' :: s)
    (hfront : p <+: Utf8.encode ('{' :: s)) (hcut : p ≠ Utf8.encode ('{' :: s)) {body : String}
    (hbody : (start .lines).final p = .ok body) : ¬ IsText body.toList := by
  have hp : newline ∉ p := fun hmem ↦ newline_not_mem_encode hline (hfront.subset hmem)
  have hfeed : (start .lines).feed p = .unfinished (line p.reverse) := by
    have happend := feed_line_append hp [] []
    rwa [List.append_nil, List.append_nil] at happend
  rw [final_of_unfinished hfeed] at hbody
  obtain ⟨t, hdecode, htrim, hne⟩ := exists_of_close_line hbody
  rw [List.reverse_reverse] at hdecode
  obtain ⟨rest, hrest⟩ := hfront
  obtain ⟨u, hu, hnil⟩ := Utf8.exists_of_encode_eq_append hrest.symm hdecode
  have hu' : u ≠ [] := by
    intro hempty
    rw [hnil hempty, List.append_nil] at hrest
    exact hcut hrest
  -- what decodes is the front of the object, and trimming leaves the front of that
  cases t with
  | nil => exact absurd rfl hne
  | cons c t =>
    rw [List.cons_append] at hu
    obtain ⟨rfl, -⟩ := List.cons.inj hu
    obtain ⟨w, hw⟩ := Text.exists_trim_append (by decide : Text.isBlank '{' = false) t
    rw [htrim]
    refine not_isText_of_append hobject (u := w ++ u) ?_ ?_
    · rw [← List.append_assoc, ← hw, hu, List.cons_append]
    · exact fun h ↦ hu' (List.append_eq_nil_iff.1 h).2

/-! ### Both framings -/

/-- **A cut object is no text.** If a stream ends before it has brought all that it takes to read an
object, what comes of it is an error, or a message that is no text. -/
theorem not_isText_of_final {framing : Framing} {message : String} {p : List UInt8}
    (hvalue : Derives .value message.toList) (hobject : message.toList.head? = some '{')
    (hline : framing = .lines → '\n' ∉ message.toList) (hfront : p <+: framing.needed message)
    (hcut : p ≠ framing.needed message) {body : String}
    (hbody : (start framing).final p = .ok body) : ¬ IsText body.toList := by
  obtain ⟨s, hs⟩ := List.head?_eq_some_iff.1 hobject
  cases framing with
  | lines =>
    have hline := hline rfl
    simp only [Framing.needed, Utf8.bytes, hs] at hvalue hline hfront hcut
    exact not_isText_of_final_lines hvalue hline hfront hcut hbody
  | contentLength =>
    have hne : Utf8.bytes message ≠ [] := by
      rw [Utf8.bytes, hs]
      exact List.cons_ne_nil _ _
    obtain ⟨e, he⟩ := exists_final_contentLength hne hfront hcut
    rw [he] at hbody
    cases hbody

end Scan

namespace Stream

/-! ### Requests -/

/-- Waiting for a response on a stream that ends in a message that is no text is over with it. -/
theorem awaitResponse_final {framing : Framing} {r : Reader} {p : List UInt8}
    (hbrings : r.Brings p [])
    (htext : ∀ body, (Scan.start framing).final p = .ok body → ¬ IsText body.toList)
    (attempts waited : Nat) :
    (awaitResponse framing none (attempts + 1) waited r).reading.outcome =
      .ofExcept ((Scan.start framing).final p) := by
  have hread := @Reader.read_final framing _ _ hbrings waited
  rw [awaitResponse]
  cases hfinal : (Scan.start framing).final p with
  | ok body =>
    rw [hfinal] at hread
    simp only [hread, Outcome.ofExcept, isServerMessage_of_not_isText (htext body hfinal),
      Bool.false_eq_true, if_false]
  | error e =>
    rw [hfinal] at hread
    simp only [hread, Outcome.ofExcept]

theorem cutOff_eq_never {α : Type} {timeout : Option Nat} {outcome : Outcome Error α}
    (h : cutOff timeout outcome = .never) : timeout = none ∧ outcome = .never := by
  cases outcome with
  | done a => cases h
  | failed e => cases h
  | never =>
    cases timeout with
    | none => exact ⟨rfl, rfl⟩
    | some ms => cases h

variable {s : Stream} {message : String} {p : List UInt8}

/-- What an exchange brings back from such a stream is no text, and it lasts for ever only where the
writer blocks. -/
theorem exchange_final (hbrings : s.reader.Brings p [])
    (htext : ∀ body, (Scan.start s.framing).final p = .ok body → ¬ IsText body.toList)
    (message : String) :
    (∀ body, (s.exchange none message).outcome = .done body → ¬ IsText body.toList) ∧
      ((s.exchange none message).outcome = .never → s.writer.stop? = some .block) := by
  by_cases hdone : (s.writer.write none 0 (s.framing.pieces message)).outcome = .done ()
  · have hawait : (s.exchange none message).outcome =
        .ofExcept ((Scan.start s.framing).final p) := by
      rw [exchange_of_done hdone]
      exact awaitResponse_final hbrings htext _ _
    rw [hawait]
    refine ⟨fun body h ↦ htext body (ofExcept_eq_done h), ?_⟩
    intro h
    cases hfinal : (Scan.start s.framing).final p <;> rw [hfinal] at h <;> cases h
  · refine ⟨fun body h ↦ absurd h (exchange_ne_done hdone body), ?_⟩
    intro h
    rw [exchange_of_stopped hdone] at h
    exact Writer.stop?_of_write_eq_never (map_eq_never h)

/-- What a request brings back from such a stream is no text, and it lasts for ever only where the
writer blocks and there is no timeout. -/
theorem request_final (hbrings : s.reader.Brings p [])
    (htext : ∀ body, (Scan.start s.framing).final p = .ok body → ¬ IsText body.toList)
    (message : String) :
    (∀ body, (s.request message).outcome = .done body → ¬ IsText body.toList) ∧
      ((s.request message).outcome = .never →
        s.timeout = none ∧ s.writer.stop? = some .block) := by
  obtain ⟨hdone, hnever⟩ := exchange_final hbrings htext message
  cases hbroken : s.broken with
  | true =>
    rw [request_of_broken hbroken]
    refine ⟨?_, ?_⟩
    · intro body h
      cases h
    · intro h
      cases h
  | false =>
    rw [request_of_usable hbroken]
    refine ⟨?_, ?_⟩
    · intro body h
      have houtcome := cutOff_eq_done h
      rcases exchange_limited s s.timeout message with hfree | hlate
      · exact hdone body (hfree ▸ houtcome)
      · cases hlate.symm.trans houtcome
    · intro h
      obtain ⟨htimeout, houtcome⟩ := cutOff_eq_never h
      rw [htimeout] at houtcome
      exact ⟨htimeout, hnever houtcome⟩

end Stream

end LspClient.Transport
