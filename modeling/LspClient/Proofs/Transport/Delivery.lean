import LspClient.Proofs.Message.ServerMessage
import LspClient.Proofs.Transport.Exchange
import LspClient.Proofs.Transport.Frame

/-!
# Delivery of a response

A request brings back the first message that is not the server's own. The bytes may arrive in pieces
of any size, and what is delivered behind that message is left for the next operation
(`Stream.request_delivered`). Two facts carry this:

* a message of the server's own is recognised when it comes out of its frame, though a line loses
  the blanks around it (`Scan.feed_frame_initiative`);
* each reading ends exactly behind a frame, so that skipping goes through the frames one by one, as
  long as there are fewer of them than attempts (`Stream.awaitResponse_delivered`).
-/

namespace LspClient.Transport

/-! ### Frames of the server's own messages -/

theorem isBlank_of_isSpace {c : Char} (h : Json.isSpace c = true) : Text.isBlank c = true := by
  simp only [Json.isSpace, Bool.or_eq_true, decide_eq_true_eq] at h
  rcases h with ((rfl | rfl) | rfl) | rfl <;> decide

/-- A message of the server's own that fits into one frame. -/
def Framing.Carries (framing : Framing) (message : String) : Prop :=
  OnServersInitiative message ∧
    match framing with
    | .lines => '\n' ∉ message.toList
    | .contentLength => message.utf8ByteSize ≤ greatestLength

/-- The frame of a message of the server's own reads as such a message. -/
theorem Scan.feed_frame_initiative {framing : Framing} {message : String}
    (h : framing.Carries message) (rest : List UInt8) :
    ∃ message', isServerMessage message' = true ∧
      (start framing).feed (framing.frame message ++ rest) = .finished (.ok message') rest := by
  obtain ⟨hown, hfits⟩ := h
  cases framing with
  | contentLength =>
    exact ⟨message, isServerMessage_of_initiative hown, feed_frame_contentLength hfits rest⟩
  | lines =>
    obtain ⟨before, behind, ms, s, value, hmembers, htext, hmethod, hvalue⟩ := hown
    have htrim : Text.trim message.toList = '{' :: (s ++ ['}']) := by
      rw [htext]
      exact Text.trim_eq_of_ends (fun c hc ↦ isBlank_of_isSpace (before.isSpace c hc))
        (fun c hc ↦ isBlank_of_isSpace (behind.isSpace c hc)) (by decide) (by decide)
    refine ⟨String.ofList (Text.trim message.toList), ?_, ?_⟩
    · refine isServerMessage_of_initiative
        ⟨.none, .none, ms, s, value, hmembers, ?_, hmethod, hvalue⟩
      rw [String.toList_ofList, htrim]
      rfl
    · have hne : Text.trim message.toList ≠ [] := by
        rw [htrim]
        exact List.cons_ne_nil _ _
      exact feed_frame_lines hfits hne rest

/-! ### Waiting for the response -/

namespace Stream

variable {framing : Framing} {own : List String} {body : String} {rest : List UInt8}
  {later : List Arrival}

/-- **The response is found behind the server's own messages.** If they are fewer than the attempts,
they are skipped, the message behind them is brought back, and what is delivered behind that is
left. -/
theorem awaitResponse_delivered (hown : ∀ m ∈ own, framing.Carries m)
    (hbody : isServerMessage body = false) (hsuits : framing.Suits body) {attempts : Nat}
    (hattempts : own.length < attempts) {r : Reader}
    (hbrings : r.Brings (own.flatMap framing.frame ++ (framing.frame body ++ rest)) later)
    (waited : Nat) :
    ∃ waited' r' skipped, r'.Brings rest later ∧
      awaitResponse framing none attempts waited r = ⟨⟨.done body, r', waited'⟩, skipped⟩ := by
  obtain ⟨attempts, rfl⟩ := Nat.exists_eq_succ_of_ne_zero (Nat.ne_zero_of_lt hattempts)
  induction own generalizing attempts waited r with
  | nil =>
    obtain ⟨waited', r', hrest, hread⟩ :=
      Reader.read_delivered hbrings (Scan.feed_frame hsuits rest) waited
    refine ⟨waited', r', [], hrest, ?_⟩
    rw [awaitResponse, hread]
    simp only [Outcome.ofExcept, hbody, Bool.false_eq_true, if_false]
  | cons m own ih =>
    obtain ⟨hm, hown⟩ := List.forall_mem_cons.1 hown
    rw [List.flatMap_cons, List.append_assoc] at hbrings
    obtain ⟨m', hm', hfeed⟩ := Scan.feed_frame_initiative hm
      (own.flatMap framing.frame ++ (framing.frame body ++ rest))
    -- one frame is taken, and what is left begins with the next
    obtain ⟨waited', r', hnext, hread⟩ := Reader.read_delivered hbrings hfeed waited
    have hlength : own.length < attempts := Nat.lt_of_succ_lt_succ hattempts
    obtain ⟨attempts, rfl⟩ := Nat.exists_eq_succ_of_ne_zero (Nat.ne_zero_of_lt hlength)
    obtain ⟨waited'', r'', skipped, hrest, hawait⟩ := ih hown hnext waited' attempts hlength
    refine ⟨waited'', r'', m' :: skipped, hrest, ?_⟩
    rw [awaitResponse, hread]
    simp only [Outcome.ofExcept, hm', if_true, hawait]

/-- A request that is written without a limit of time brings back the message behind the server's
own, and leaves a usable transport with the bytes behind that message. -/
theorem request_delivered {s : Stream} {message : String} (hbroken : s.broken = false)
    (htimeout : s.timeout = none)
    (hwrite : (s.writer.write none 0 (s.framing.pieces message)).outcome = .done ())
    (hown : ∀ m ∈ own, s.framing.Carries m) (hcount : own.length < greatestSkip)
    (hbody : isServerMessage body = false) (hsuits : s.framing.Suits body)
    (hbrings : s.reader.Brings
      (own.flatMap s.framing.frame ++ (s.framing.frame body ++ rest)) later) :
    (s.request message).outcome = .done body ∧ (s.request message).transport.broken = false ∧
      (s.request message).transport.reader.Brings rest later := by
  obtain ⟨waited, r, skipped, hrest, hawait⟩ := awaitResponse_delivered hown hbody hsuits hcount
    hbrings (s.writer.write none 0 (s.framing.pieces message)).waited
  have hexchange : s.exchange none message =
      ⟨.done body, r, (s.writer.write none 0 (s.framing.pieces message)).writer, waited,
        skipped⟩ := by
    rw [exchange_of_done hwrite, hawait]
  rw [request_of_usable hbroken, htimeout, hexchange]
  exact ⟨rfl, rfl, hrest⟩

end Stream

end LspClient.Transport
