import LspClient.Proofs.Transport.Exchange

/-!
# What a timeout changes

An exchange under a limit of time is compared with the same exchange without one, from the same
transport. If the exchange without a limit is over within the limit, the limit changes nothing
(`exchange_of_waited_le`). If it takes longer, or is never over, it is not over under the limit
(`exchange_beyond`). What this means for a request is in `request_withTimeout_of_usable`.

Each layer of an exchange gets the same two lemmas: under a limit it does what it does without one
if that is over within the limit (`…_of_waited_le`), and is not over if that is over only beyond it,
or never (`…_beyond`). They are put together by the fact that time only adds up (`…_waited`), so a
read that is over late makes all that follows it late.
-/

namespace LspClient.Transport

/-! ### Reading -/

/-- Time only adds up while reading on. -/
theorem readOn_waited (limit : Option Nat) (scan : Scan) (waited : Nat) (unread : List UInt8)
    (arrivals : List Arrival) : waited ≤ (readOn limit scan waited unread arrivals).waited := by
  fun_induction readOn limit scan waited unread arrivals with
  | case4 scan waited unread next hfeed ms arrivals hin ih =>
    exact Nat.le_trans (Nat.le_add_right waited ms) ih
  | case5 scan waited unread next hfeed ms => exact Nat.le_add_right waited ms
  | case3 | case7 => assumption
  | case1 | case2 | case6 | case8 => exact Nat.le_refl _

/-- Reading on that is over within the limit is not changed by the limit. -/
theorem readOn_of_waited_le {limit : Nat} {scan : Scan} {waited : Nat} {unread : List UInt8}
    {arrivals : List Arrival} (h : (readOn none scan waited unread arrivals).waited ≤ limit) :
    readOn (some limit) scan waited unread arrivals =
      readOn none scan waited unread arrivals := by
  fun_induction readOn none scan waited unread arrivals with
  | case1 arrivals scan waited unread result rest hfeed => exact readOn_of_finished hfeed
  | case2 scan waited unread next hfeed => exact readOn_of_unfinished hfeed
  | case3 scan waited unread next hfeed bytes arrivals ih =>
    rw [readOn_of_unfinished hfeed, readOn_data, ih h]
  | case4 scan waited unread next hfeed ms arrivals _ ih =>
    -- the delay itself is over within the limit
    have hms : waited + ms ≤ limit :=
      Nat.le_trans (readOn_waited none next (waited + ms) [] arrivals) h
    have hin : inTime (some limit) (waited + ms) = true := decide_eq_true hms
    rw [readOn_of_unfinished hfeed, readOn_delay hin, ih h]
  | case5 _ _ _ _ _ _ _ hout => exact absurd rfl hout
  | case6 scan waited unread next hfeed fault arrivals e he =>
    rw [readOn_of_unfinished hfeed, readOn_fail he]
  | case7 scan waited unread next hfeed fault arrivals he ih =>
    rw [readOn_of_unfinished hfeed, readOn_fail_retried he, ih h]
  | case8 scan waited unread next hfeed arrivals => exact readOn_of_unfinished hfeed

/-- Reading on that is over only beyond the limit, or never, is not over under the limit. -/
theorem readOn_beyond {limit : Nat} {scan : Scan} {waited : Nat} {unread : List UInt8}
    {arrivals : List Arrival} (hwaited : waited ≤ limit)
    (h : (readOn none scan waited unread arrivals).outcome = .never ∨
      limit < (readOn none scan waited unread arrivals).waited) :
    (readOn (some limit) scan waited unread arrivals).outcome = .never := by
  -- what is over without waiting any longer is over in time
  have hover : ∀ {result : Except Error String} {waited : Nat}, waited ≤ limit →
      ¬((Outcome.ofExcept result = .never) ∨ limit < waited) := by
    intro result waited hle h
    rcases h with h | h
    · cases result <;> cases h
    · exact Nat.not_lt_of_le hle h
  fun_induction readOn none scan waited unread arrivals with
  | case1 => exact absurd h (hover hwaited)
  | case2 => exact absurd h (hover hwaited)
  | case3 scan waited unread next hfeed bytes arrivals ih =>
    rw [readOn_of_unfinished hfeed, readOn_data]
    exact ih hwaited h
  | case4 scan waited unread next hfeed ms arrivals _ ih =>
    rw [readOn_of_unfinished hfeed]
    by_cases hms : waited + ms ≤ limit
    · have hin : inTime (some limit) (waited + ms) = true := decide_eq_true hms
      rw [readOn_delay hin]
      exact ih hms h
    · have hout : inTime (some limit) (waited + ms) = false := decide_eq_false hms
      rw [readOn_delay_late hout]
  | case5 _ _ _ _ _ _ _ hout => exact absurd rfl hout
  | case6 scan waited unread next hfeed fault arrivals e =>
    exact absurd h (@hover (.error e) waited hwaited)
  | case7 scan waited unread next hfeed fault arrivals he ih =>
    rw [readOn_of_unfinished hfeed, readOn_fail_retried he]
    exact ih hwaited h
  | case8 scan waited unread next hfeed arrivals => rw [readOn_of_unfinished hfeed, readOn_silence]

/-! ### Writing -/

namespace Writer

variable {limit : Nat} {waited : Nat} {w : Writer} {piece : List UInt8} {pieces : List (List UInt8)}

/-- Time only adds up while a piece is written. -/
theorem writePiece_waited (limit : Option Nat) (waited : Nat) (w : Writer) (piece : List UInt8) :
    waited ≤ (w.writePiece limit waited piece).waited := by
  fun_induction writePiece limit waited w piece with
  | case3 waited w b piece ms delays hdelays w₁ hin w' htake ih =>
    exact Nat.le_trans (Nat.le_add_right waited ms) ih
  | case4 waited w b piece ms => exact Nat.le_add_right waited ms
  | case5 waited w b piece ms => exact Nat.le_add_right waited ms
  | case1 | case2 => exact Nat.le_refl _

/-- A flush does not turn the clock back. -/
theorem flush_waited (limit : Option Nat) (waited : Nat) (w : Writer) :
    waited ≤ (w.flush limit waited).waited := by
  rw [flush]
  split
  · exact Nat.le_refl waited
  · dsimp only
    split <;> exact Nat.le_add_right waited _

/-- Time only adds up while pieces are written. -/
theorem write_waited (limit : Option Nat) (waited : Nat) (w : Writer)
    (pieces : List (List UInt8)) : waited ≤ (w.write limit waited pieces).waited := by
  induction pieces generalizing waited w with
  | nil => exact flush_waited limit waited w
  | cons piece pieces ih =>
    have hpiece := writePiece_waited limit waited w piece
    by_cases hdone : (w.writePiece limit waited piece).outcome = .done ()
    · rw [write_cons_of_done hdone]
      exact Nat.le_trans hpiece (ih _ _)
    · rw [write_cons_of_stopped hdone]
      exact hpiece

/-- Writing a piece that is over within the limit is not changed by the limit. -/
theorem writePiece_of_waited_le (h : (w.writePiece none waited piece).waited ≤ limit) :
    w.writePiece (some limit) waited piece = w.writePiece none waited piece := by
  fun_induction writePiece none waited w piece with
  | case1 => rfl
  | case2 waited w b piece hdelays outcome w' htake =>
    rw [writePiece, hdelays]
    simp only [htake]
  | case3 waited w b piece ms delays hdelays w₁ _ w' htake ih =>
    have hin : inTime (some limit) (waited + ms) = true :=
      decide_eq_true (Nat.le_trans (writePiece_waited none _ w' piece) h)
    exact (writePiece_cons_of_done hdelays hin htake).trans (ih h)
  | case4 waited w b piece ms delays hdelays w₁ _ outcome w' hne htake =>
    have hin : inTime (some limit) (waited + ms) = true := decide_eq_true h
    exact writePiece_cons_of_stopped hdelays hin hne htake
  | case5 _ _ _ _ _ _ _ _ hout => exact absurd rfl hout

/-- Writing a piece that is over only beyond the limit, or never, is not over under the limit. -/
theorem writePiece_beyond (hwaited : waited ≤ limit)
    (h : (w.writePiece none waited piece).outcome = .never ∨
      limit < (w.writePiece none waited piece).waited) :
    (w.writePiece (some limit) waited piece).outcome = .never := by
  fun_induction writePiece none waited w piece with
  | case1 =>
    rcases h with h | h
    · cases h
    · exact absurd h (Nat.not_lt_of_le hwaited)
  | case2 waited w b piece hdelays outcome w' htake =>
    rw [writePiece, hdelays]
    simp only [htake]
    exact h.resolve_right (Nat.not_lt_of_le hwaited)
  | case3 waited w b piece ms delays hdelays w₁ _ w' htake ih =>
    by_cases hms : waited + ms ≤ limit
    · have hin : inTime (some limit) (waited + ms) = true := decide_eq_true hms
      rw [writePiece_cons_of_done hdelays hin htake]
      exact ih hms h
    · have hout : inTime (some limit) (waited + ms) = false := decide_eq_false hms
      rw [writePiece_cons_of_late hdelays hout]
  | case4 waited w b piece ms delays hdelays w₁ _ outcome w' hne htake =>
    by_cases hms : waited + ms ≤ limit
    · have hin : inTime (some limit) (waited + ms) = true := decide_eq_true hms
      rw [writePiece_cons_of_stopped hdelays hin hne htake]
      exact h.resolve_right (Nat.not_lt_of_le hms)
    · have hout : inTime (some limit) (waited + ms) = false := decide_eq_false hms
      rw [writePiece_cons_of_late hdelays hout]
  | case5 _ _ _ _ _ _ _ _ hout => exact absurd rfl hout

/-- A flush that is over within the limit is not changed by the limit. -/
theorem flush_of_waited_le (h : (w.flush none waited).waited ≤ limit) :
    w.flush (some limit) waited = w.flush none waited := by
  cases hdelays : w.delays with
  | nil => simp only [flush, hdelays]
  | cons ms delays =>
    have hfree : w.flush none waited = ⟨w.flushed, { w with delays }, waited + ms⟩ :=
      flush_of_delay hdelays rfl
    rw [hfree] at h
    have hin : inTime (some limit) (waited + ms) = true := decide_eq_true h
    rw [hfree, flush_of_delay hdelays hin]

/-- A flush that is over only beyond the limit is not over under the limit. -/
theorem flush_beyond (hwaited : waited ≤ limit)
    (h : (w.flush none waited).outcome = .never ∨ limit < (w.flush none waited).waited) :
    (w.flush (some limit) waited).outcome = .never := by
  have hlate := h.resolve_left (flush_none_ne_never waited w)
  cases hdelays : w.delays with
  | nil =>
    simp only [flush, hdelays] at hlate
    exact absurd hlate (Nat.not_lt_of_le hwaited)
  | cons ms delays =>
    rw [flush_of_delay hdelays rfl] at hlate
    have hout : inTime (some limit) (waited + ms) = false :=
      decide_eq_false (Nat.not_le_of_lt hlate)
    rw [flush_of_late hdelays hout]

/-- Writing that is over within the limit is not changed by the limit. -/
theorem write_of_waited_le (h : (w.write none waited pieces).waited ≤ limit) :
    w.write (some limit) waited pieces = w.write none waited pieces := by
  induction pieces generalizing waited w with
  | nil => exact flush_of_waited_le h
  | cons piece pieces ih =>
    by_cases hdone : (w.writePiece none waited piece).outcome = .done ()
    · rw [write_cons_of_done hdone] at h ⊢
      have hpiece : w.writePiece (some limit) waited piece = w.writePiece none waited piece :=
        writePiece_of_waited_le (Nat.le_trans (write_waited none _ _ pieces) h)
      rw [write_cons_of_done (by rw [hpiece, hdone]), hpiece, ih h]
    · rw [write_cons_of_stopped hdone] at h ⊢
      have hpiece : w.writePiece (some limit) waited piece = w.writePiece none waited piece :=
        writePiece_of_waited_le h
      rw [write_cons_of_stopped (by rwa [hpiece]), hpiece]

/-- Writing that is over only beyond the limit, or never, is not over under the limit. -/
theorem write_beyond (hwaited : waited ≤ limit)
    (h : (w.write none waited pieces).outcome = .never ∨
      limit < (w.write none waited pieces).waited) :
    (w.write (some limit) waited pieces).outcome = .never := by
  induction pieces generalizing waited w with
  | nil => exact flush_beyond hwaited h
  | cons piece pieces ih =>
    by_cases hpiece : (w.writePiece none waited piece).outcome = .never ∨
        limit < (w.writePiece none waited piece).waited
    · -- this piece is already late
      have hlimited := writePiece_beyond hwaited hpiece
      rw [write_cons_of_stopped (by rw [hlimited]; exact nofun), hlimited]
    · have hle : (w.writePiece none waited piece).waited ≤ limit :=
        Nat.le_of_not_lt fun hlt ↦ hpiece (.inr hlt)
      have hsame : w.writePiece (some limit) waited piece = w.writePiece none waited piece :=
        writePiece_of_waited_le hle
      by_cases hdone : (w.writePiece none waited piece).outcome = .done ()
      · rw [write_cons_of_done hdone] at h
        rw [write_cons_of_done (by rw [hsame, hdone]), hsame]
        exact ih hle h
      · rw [write_cons_of_stopped hdone] at h
        exact absurd h hpiece

end Writer

namespace Stream

/-! ### Waiting for a response -/

/-- Time only adds up while waiting for a response. -/
theorem awaitResponse_waited (framing : Framing) (limit : Option Nat) (attempts waited : Nat)
    (r : Reader) : waited ≤ (awaitResponse framing limit attempts waited r).reading.waited := by
  induction attempts generalizing waited r with
  | zero => exact Nat.le_refl waited
  | succ attempts ih =>
    have hread : waited ≤ (r.read framing limit waited).waited := readOn_waited limit _ waited _ _
    rw [awaitResponse]
    split
    · split
      · exact Nat.le_trans hread (ih _ _)
      · exact hread
    · exact hread

/-- Waiting for a response takes at least as long as reading the first message. -/
theorem read_waited_le (framing : Framing) (limit : Option Nat) (attempts waited : Nat)
    (r : Reader) : (r.read framing limit waited).waited ≤
      (awaitResponse framing limit (attempts + 1) waited r).reading.waited := by
  rw [awaitResponse]
  split
  · split
    · exact awaitResponse_waited framing limit attempts _ _
    · exact Nat.le_refl _
  · exact Nat.le_refl _

/-- Waiting that is over within the limit is not changed by the limit. -/
theorem awaitResponse_of_waited_le {framing : Framing} {limit attempts waited : Nat} {r : Reader}
    (h : (awaitResponse framing none attempts waited r).reading.waited ≤ limit) :
    awaitResponse framing (some limit) attempts waited r =
      awaitResponse framing none attempts waited r := by
  induction attempts generalizing waited r with
  | zero => rfl
  | succ attempts ih =>
    -- the first read is over within the limit, like all of them
    have hle : (r.read framing none waited).waited ≤ limit :=
      Nat.le_trans (read_waited_le framing none attempts waited r) h
    have hread : r.read framing (some limit) waited = r.read framing none waited :=
      readOn_of_waited_le hle
    rw [awaitResponse] at h ⊢
    rw [awaitResponse, hread]
    cases houtcome : (r.read framing none waited).outcome with
    | done message =>
      by_cases hserver : isServerMessage message = true
      · simp only [houtcome, hserver, if_true] at h ⊢
        rw [ih h]
      · simp only [hserver, Bool.false_eq_true, if_false]
    | failed e => rfl
    | never => rfl

/-- Waiting that is over only beyond the limit, or never, is not over under the limit. -/
theorem awaitResponse_beyond {framing : Framing} {limit attempts waited : Nat} {r : Reader}
    (hwaited : waited ≤ limit)
    (h : (awaitResponse framing none attempts waited r).reading.outcome = .never ∨
      limit < (awaitResponse framing none attempts waited r).reading.waited) :
    (awaitResponse framing (some limit) attempts waited r).reading.outcome = .never := by
  induction attempts generalizing waited r with
  | zero =>
    rcases h with h | h
    · cases h
    · exact absurd hwaited (Nat.not_le_of_lt h)
  | succ attempts ih =>
    by_cases hread : (r.read framing none waited).outcome = .never ∨
        limit < (r.read framing none waited).waited
    · -- the first read is already late
      have hlimited : (r.read framing (some limit) waited).outcome = .never :=
        readOn_beyond hwaited hread
      rw [awaitResponse]
      simp only [hlimited]
    · have hle : (r.read framing none waited).waited ≤ limit :=
        Nat.le_of_not_lt fun hlt ↦ hread (.inr hlt)
      have hsame : r.read framing (some limit) waited = r.read framing none waited :=
        readOn_of_waited_le hle
      rw [awaitResponse] at h ⊢
      rw [hsame]
      cases houtcome : (r.read framing none waited).outcome with
      | done message =>
        by_cases hserver : isServerMessage message = true
        · simp only [houtcome, hserver, if_true] at h ⊢
          exact ih hle h
        · simp only [houtcome, hserver, Bool.false_eq_true, if_false] at h
          exact absurd (houtcome ▸ h) hread
      | failed e =>
        simp only [houtcome] at h
        exact absurd (houtcome ▸ h) hread
      | never => exact absurd (.inl houtcome) hread

/-! ### Exchanges -/

variable {s : Stream} {message : String} {limit : Nat}

/-- Time only adds up in an exchange: it takes at least as long as its writing. -/
theorem write_waited_le_exchange (limit : Option Nat) (s : Stream) (message : String) :
    (s.writer.write limit 0 (s.framing.pieces message)).waited ≤
      (s.exchange limit message).waited := by
  by_cases hdone : (s.writer.write limit 0 (s.framing.pieces message)).outcome = .done ()
  · rw [exchange_of_done hdone]
    exact awaitResponse_waited s.framing limit greatestSkip _ s.reader
  · exact Nat.le_of_eq (by rw [exchange_of_stopped hdone])

/-- An exchange that is over within the limit is not changed by the limit. -/
theorem exchange_of_waited_le (h : (s.exchange none message).waited ≤ limit) :
    s.exchange (some limit) message = s.exchange none message := by
  -- the writing is over within the limit, as the whole exchange is
  have hwrite : s.writer.write (some limit) 0 (s.framing.pieces message) =
      s.writer.write none 0 (s.framing.pieces message) :=
    Writer.write_of_waited_le (Nat.le_trans (write_waited_le_exchange none s message) h)
  by_cases hdone : (s.writer.write none 0 (s.framing.pieces message)).outcome = .done ()
  · have hdone' : (s.writer.write (some limit) 0 (s.framing.pieces message)).outcome =
        .done () := by
      rw [hwrite, hdone]
    rw [exchange_of_done hdone] at h ⊢
    rw [exchange_of_done hdone', hwrite, awaitResponse_of_waited_le h]
  · have hdone' : (s.writer.write (some limit) 0 (s.framing.pieces message)).outcome ≠
        .done () := by
      rwa [hwrite]
    rw [exchange_of_stopped hdone, exchange_of_stopped hdone', hwrite]

/-- An exchange that is over only beyond the limit, or never, is not over under the limit. -/
theorem exchange_beyond
    (h : (s.exchange none message).outcome = .never ∨ limit < (s.exchange none message).waited) :
    (s.exchange (some limit) message).outcome = .never := by
  by_cases hwrite : (s.writer.write none 0 (s.framing.pieces message)).outcome = .never ∨
      limit < (s.writer.write none 0 (s.framing.pieces message)).waited
  · -- the writing is already late
    have hlimited := Writer.write_beyond (Nat.zero_le limit) hwrite
    have hstopped : (s.writer.write (some limit) 0 (s.framing.pieces message)).outcome ≠
        .done () := by
      rw [hlimited]
      exact nofun
    rw [exchange_of_stopped hstopped]
    exact congrArg (Outcome.map fun _ ↦ "") hlimited
  · have hle : (s.writer.write none 0 (s.framing.pieces message)).waited ≤ limit :=
      Nat.le_of_not_lt fun hlt ↦ hwrite (.inr hlt)
    have hsame : s.writer.write (some limit) 0 (s.framing.pieces message) =
        s.writer.write none 0 (s.framing.pieces message) := Writer.write_of_waited_le hle
    by_cases hdone : (s.writer.write none 0 (s.framing.pieces message)).outcome = .done ()
    · have hdone' : (s.writer.write (some limit) 0 (s.framing.pieces message)).outcome =
          .done () := by
        rw [hsame, hdone]
      rw [exchange_of_done hdone] at h
      rw [exchange_of_done hdone', hsame]
      exact awaitResponse_beyond hle h
    · rw [exchange_of_stopped hdone] at h
      rcases h with h | h
      · exact absurd (.inl (map_eq_never h)) hwrite
      · exact absurd h (Nat.not_lt_of_le hle)

/-- An exchange under a limit is what it is without one, or is not over. -/
theorem exchange_limited (s : Stream) (limit : Option Nat) (message : String) :
    s.exchange limit message = s.exchange none message ∨
      (s.exchange limit message).outcome = .never := by
  cases limit with
  | none => exact .inl rfl
  | some limit =>
    by_cases hle : (s.exchange none message).waited ≤ limit
    · exact .inl (exchange_of_waited_le hle)
    · exact .inr (exchange_beyond (.inr (Nat.lt_of_not_le hle)))

/-! ### Requests -/

/-- The transport with another timeout, or with none. -/
def withTimeout (s : Stream) (timeout : Option Nat) : Stream :=
  { s with timeout }

/-- What a request is with one timeout or another. -/
theorem request_withTimeout_of_usable (h : s.broken = false) (timeout : Option Nat)
    (message : String) :
    (s.withTimeout timeout).request message =
      let x := s.exchange timeout message
      let outcome := cutOff timeout x.outcome
      { outcome
        transport :=
          { s with timeout, reader := x.reader, writer := x.writer, broken := isFailure outcome }
        notes := x.skipped.map skippedNote ++ outcomeNotes outcome } := by
  have husable : (s.withTimeout timeout).broken = false := h
  exact request_of_usable husable message

end Stream

end LspClient.Transport
