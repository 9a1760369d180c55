import LspClient.Proofs.Transport.Timeout
import Mathlib.Order.Monotone.Basic

/-!
# How long an exchange takes, and what it cannot depend on

The time that an exchange takes is the time of the pauses that it has gone through, those of its
writing and those of its reading together (`Stream.exchange_pause`).

What is known to arrive on a stream may be only the beginning of what arrives. Then either the
exchange is over with what is known, and whatever arrives `later` changes nothing and is left; or it
goes through all of what is known, with all its pauses, and waits on (`Stream.exchange_before`). So
of an endless script, in which time goes on, so much decides what becomes of an exchange that has to
be over by a certain time (`Stream.exists_decided`). Each layer of an exchange gets the same lemma,
and the sum of the pauses is what puts them together.
-/

namespace LspClient.Transport

/-! ### Pauses -/

/-- How long an arrival has to be waited for. -/
def Arrival.pause : Arrival → Nat
  | .delay ms => ms
  | .data _ | .fail _ | .silence => 0

/-- How long all arrivals of a reader have to be waited for. -/
def Reader.pause (r : Reader) : Nat :=
  (r.arrivals.map Arrival.pause).sum

/-- How long a writer will hold up what is written. -/
def Writer.pause (w : Writer) : Nat :=
  w.delays.sum

/-- The time that reading on takes is the time of the pauses that it leaves behind. -/
theorem readOn_pause (limit : Option Nat) (scan : Scan) (waited : Nat) (unread : List UInt8)
    (arrivals : List Arrival) :
    (readOn limit scan waited unread arrivals).waited +
        (readOn limit scan waited unread arrivals).reader.pause =
      waited + (arrivals.map Arrival.pause).sum := by
  fun_induction readOn limit scan waited unread arrivals with
  | case1 | case2 | case8 => rfl
  | case3 scan waited unread next hfeed bytes arrivals ih =>
    rw [ih, List.map_cons, List.sum_cons, Arrival.pause, Nat.zero_add]
  | case4 scan waited unread next hfeed ms arrivals hin ih =>
    rw [ih, List.map_cons, List.sum_cons, Arrival.pause, Nat.add_assoc]
  | case5 scan waited unread next hfeed ms arrivals hout =>
    rw [List.map_cons, List.sum_cons, Arrival.pause, ← Nat.add_assoc]
    rfl
  | case6 scan waited unread next hfeed fault arrivals e he =>
    rw [List.map_cons, List.sum_cons, Arrival.pause, Nat.zero_add]
    rfl
  | case7 scan waited unread next hfeed fault arrivals he ih =>
    rw [ih, List.map_cons, List.sum_cons, Arrival.pause, Nat.zero_add]

namespace Writer

variable {limit : Option Nat} {waited : Nat} {w : Writer} {piece : List UInt8}

/-- The time that a piece takes is the time of the delays that it uses up. -/
theorem writePiece_pause :
    (w.writePiece limit waited piece).waited + (w.writePiece limit waited piece).writer.pause =
      waited + w.pause := by
  -- the delay in front, which is used up whatever becomes of the byte
  have hfront : ∀ {w w' : Writer} {ms waited : Nat} {delays : List Nat}, w.delays = ms :: delays →
      w'.delays = delays → waited + ms + w'.pause = waited + w.pause := by
    intro w w' ms waited delays hw hw'
    rw [pause, pause, hw, hw', List.sum_cons, Nat.add_assoc]
  fun_induction writePiece limit waited w piece with
  | case1 => rfl
  | case2 waited w b piece hdelays outcome w' htake =>
    have hsame := w.take_delays (b :: piece) 0
    rw [htake] at hsame
    exact congrArg (waited + List.sum ·) hsame
  | case3 waited w b piece ms delays hdelays w₁ hin w' htake ih =>
    have hsame := w₁.take_delays [b] piece.length
    rw [htake] at hsame
    exact ih.trans (hfront hdelays hsame)
  | case4 waited w b piece ms delays hdelays w₁ hin outcome w' hne htake =>
    have hsame := w₁.take_delays [b] piece.length
    rw [htake] at hsame
    exact hfront hdelays hsame
  | case5 waited w b piece ms delays hdelays w₁ hout => exact hfront hdelays rfl

theorem flush_pause :
    (w.flush limit waited).waited + (w.flush limit waited).writer.pause = waited + w.pause := by
  rw [flush]
  cases hdelays : w.delays with
  | nil => rfl
  | cons ms delays =>
    have hpause : w.pause = ms + delays.sum := by rw [pause, hdelays, List.sum_cons]
    rw [hpause, ← Nat.add_assoc]
    dsimp only
    split <;> rfl

/-- The time that writing takes is the time of the delays that it uses up. -/
theorem write_pause {pieces : List (List UInt8)} :
    (w.write limit waited pieces).waited + (w.write limit waited pieces).writer.pause =
      waited + w.pause := by
  induction pieces generalizing waited w with
  | nil => exact flush_pause
  | cons piece pieces ih =>
    by_cases hdone : (w.writePiece limit waited piece).outcome = .done ()
    · rw [write_cons_of_done hdone, ih, writePiece_pause]
    · rw [write_cons_of_stopped hdone, writePiece_pause]

end Writer

namespace Stream

/-- The time that waiting for a response takes is the time of the pauses that it leaves behind. -/
theorem awaitResponse_pause (framing : Framing) (limit : Option Nat) (attempts waited : Nat)
    (r : Reader) :
    (awaitResponse framing limit attempts waited r).reading.waited +
        (awaitResponse framing limit attempts waited r).reading.reader.pause =
      waited + r.pause := by
  induction attempts generalizing waited r with
  | zero => rfl
  | succ attempts ih =>
    have hread : (r.read framing limit waited).waited + (r.read framing limit waited).reader.pause =
        waited + r.pause := readOn_pause limit _ waited r.unread r.arrivals
    rw [awaitResponse]
    split
    · split
      · exact (ih _ _).trans hread
      · exact hread
    · exact hread

/-- **The time of an exchange is the time of the pauses it has gone through**, in the writing and in
the reading. -/
theorem exchange_pause (limit : Option Nat) (s : Stream) (message : String) :
    (s.exchange limit message).waited + (s.exchange limit message).writer.pause +
        (s.exchange limit message).reader.pause =
      s.writer.pause + s.reader.pause := by
  have hwrite : (s.writer.write limit 0 (s.framing.pieces message)).waited +
      (s.writer.write limit 0 (s.framing.pieces message)).writer.pause = s.writer.pause :=
    Writer.write_pause.trans (Nat.zero_add s.writer.pause)
  by_cases hdone : (s.writer.write limit 0 (s.framing.pieces message)).outcome = .done ()
  · have hawait := awaitResponse_pause s.framing limit greatestSkip
      (s.writer.write limit 0 (s.framing.pieces message)).waited s.reader
    rw [exchange_of_done hdone]
    dsimp only
    omega
  · rw [exchange_of_stopped hdone]
    dsimp only
    rw [hwrite]

end Stream

/-! ### What arrives later -/

/-- The reader with more to arrive after all that it brings. -/
def Reader.before (r : Reader) (later : List Arrival) : Reader :=
  { r with arrivals := r.arrivals ++ later }

/-- What comes of reading, with more to arrive. -/
def Reading.before (x : Reading) (later : List Arrival) : Reading :=
  { x with reader := x.reader.before later }

/-- What comes of something that is over by itself, or goes on when there is more to arrive: the
outcome and the time waited, for all that may arrive later. It has waited for so long when it meets
what arrives later. -/
structure WaitsOn (x : List Arrival → Outcome Error String × Nat) (waited : Nat) : Prop where
  le : ∀ later, waited ≤ (x later).2
  silent : x [.silence] = (.never, waited)

/-- Reading on is over with what is known to arrive, or waits on. -/
theorem readOn_before (scan : Scan) (waited : Nat) (unread : List UInt8)
    (arrivals : List Arrival) :
    (∃ x : Reading, ∀ later,
        readOn none scan waited unread (arrivals ++ later) = x.before later) ∨
      ∃ next, ∀ later, readOn none scan waited unread (arrivals ++ later) =
        readOn none next (waited + (arrivals.map Arrival.pause).sum) [] later := by
  induction arrivals generalizing scan waited unread with
  | nil =>
    cases hfeed : scan.feed unread with
    | finished result rest =>
      exact .inl ⟨⟨.ofExcept result, ⟨rest, []⟩, waited⟩, fun later ↦ readOn_of_finished hfeed⟩
    | unfinished next => exact .inr ⟨next, fun later ↦ readOn_of_unfinished hfeed⟩
  | cons arrival arrivals ih =>
    simp only [List.cons_append, List.map_cons, List.sum_cons]
    cases hfeed : scan.feed unread with
    | finished result rest =>
      exact .inl ⟨⟨.ofExcept result, ⟨rest, arrival :: arrivals⟩, waited⟩,
        fun later ↦ readOn_of_finished hfeed⟩
    | unfinished next =>
      simp only [readOn_of_unfinished hfeed]
      cases arrival with
      | data bytes =>
        simp only [readOn_data, Arrival.pause, Nat.zero_add]
        exact ih next waited bytes
      | delay ms =>
        have hin : inTime none (waited + ms) = true := rfl
        simp only [readOn_delay hin, Arrival.pause, ← Nat.add_assoc]
        exact ih next (waited + ms) []
      | fail fault =>
        cases he : next.failure? fault with
        | some e =>
          exact .inl ⟨⟨.failed e, ⟨[], arrivals⟩, waited⟩, fun later ↦ readOn_fail he⟩
        | none =>
          simp only [readOn_fail_retried he, Arrival.pause, Nat.zero_add]
          exact ih next waited []
      | silence =>
        exact .inl ⟨⟨.never, ⟨[], .silence :: arrivals⟩, waited⟩, fun later ↦ readOn_silence⟩

/-- Reading a message is over with what is known to arrive, or waits on. -/
theorem Reader.read_before (r : Reader) (framing : Framing) (waited : Nat) :
    (∃ x : Reading, x.waited + x.reader.pause = waited + r.pause ∧
        ∀ later, (r.before later).read framing none waited = x.before later) ∨
      WaitsOn (fun later ↦ (((r.before later).read framing none waited).outcome,
        ((r.before later).read framing none waited).waited)) (waited + r.pause) := by
  rcases readOn_before (.start framing) waited r.unread r.arrivals with ⟨x, hx⟩ | ⟨next, hnext⟩
  · refine .inl ⟨x, ?_, hx⟩
    -- what it takes if nothing arrives later is what it takes
    have hsum := readOn_pause none (.start framing) waited r.unread (r.arrivals ++ [])
    rw [hx] at hsum
    simpa only [Reading.before, Reader.before, Reader.pause, List.append_nil] using hsum
  · have hread : ∀ later, (r.before later).read framing none waited =
        readOn none next (waited + r.pause) [] later := hnext
    refine .inr ⟨fun later ↦ ?_, ?_⟩
    · simp only [hread]
      exact readOn_waited none next _ [] later
    · simp only [hread, readOn_silence]

namespace Stream

/-- What comes of waiting for a response, with more to arrive. -/
def Waiting.before (x : Waiting) (later : List Arrival) : Waiting :=
  { x with reading := x.reading.before later }

/-- What comes of an exchange, with more to arrive. -/
def Exchange.before (x : Exchange) (later : List Arrival) : Exchange :=
  { x with reader := x.reader.before later }

/-- The transport with more to arrive after all that its reader brings. -/
def before (s : Stream) (later : List Arrival) : Stream :=
  { s with reader := s.reader.before later }

/-- Waiting for a response is over with what is known to arrive, or waits on. -/
theorem awaitResponse_before (framing : Framing) (attempts waited : Nat) (r : Reader) :
    (∃ x : Waiting, ∀ later,
        awaitResponse framing none attempts waited (r.before later) = x.before later) ∨
      WaitsOn (fun later ↦
        ((awaitResponse framing none attempts waited (r.before later)).reading.outcome,
          (awaitResponse framing none attempts waited (r.before later)).reading.waited))
        (waited + r.pause) := by
  induction attempts generalizing waited r with
  | zero => exact .inl ⟨⟨⟨.failed onlyServerMessages, r, waited⟩, []⟩, fun later ↦ rfl⟩
  | succ attempts ih =>
    rcases r.read_before framing waited with ⟨⟨outcome, left, time⟩, hpause, hx⟩ | hwaits
    · -- the first message is known: what follows is told by what it leaves
      have hread : ∀ later, (r.before later).read framing none waited =
          ⟨outcome, left.before later, time⟩ := hx
      simp only [awaitResponse, hread]
      cases outcome with
      | failed e => exact .inl ⟨⟨⟨.failed e, left, time⟩, []⟩, fun later ↦ rfl⟩
      | never => exact .inl ⟨⟨⟨.never, left, time⟩, []⟩, fun later ↦ rfl⟩
      | done message =>
        by_cases hserver : isServerMessage message = true
        · simp only [hserver, if_true, ← hpause]
          rcases ih time left with ⟨y, hy⟩ | hwaits
          · refine .inl ⟨{ y with skipped := message :: y.skipped }, fun later ↦ ?_⟩
            rw [hy]
            rfl
          · exact .inr hwaits
        · simp only [hserver, Bool.false_eq_true, if_false]
          exact .inl ⟨⟨⟨.done message, left, time⟩, []⟩, fun later ↦ rfl⟩
    · refine .inr ⟨fun later ↦ ?_, ?_⟩
      · exact Nat.le_trans (hwaits.le later) (read_waited_le framing none attempts waited _)
      · obtain ⟨hnever, hwaited⟩ := Prod.mk.inj hwaits.silent
        simp only [awaitResponse, hnever, hwaited]

/-- **An exchange is over with what is known to arrive, or goes through all of it and waits on.** -/
theorem exchange_before (s : Stream) (message : String) :
    (∃ x : Exchange, ∀ later, (s.before later).exchange none message = x.before later) ∨
      ∃ waited, s.reader.pause ≤ waited ∧
        WaitsOn (fun later ↦ (((s.before later).exchange none message).outcome,
          ((s.before later).exchange none message).waited)) waited := by
  by_cases hdone : (s.writer.write none 0 (s.framing.pieces message)).outcome = .done ()
  · have hexchange : ∀ later, (s.before later).exchange none message =
        let x := awaitResponse s.framing none greatestSkip
          (s.writer.write none 0 (s.framing.pieces message)).waited (s.reader.before later)
        ⟨x.reading.outcome, x.reading.reader,
          (s.writer.write none 0 (s.framing.pieces message)).writer, x.reading.waited,
          x.skipped⟩ := fun later ↦ @exchange_of_done (s.before later) message none hdone
    rcases awaitResponse_before s.framing greatestSkip
      (s.writer.write none 0 (s.framing.pieces message)).waited s.reader with ⟨x, hx⟩ | hwaits
    · refine .inl ⟨⟨x.reading.outcome, x.reading.reader,
        (s.writer.write none 0 (s.framing.pieces message)).writer, x.reading.waited, x.skipped⟩,
        fun later ↦ ?_⟩
      rw [hexchange, hx]
      rfl
    · refine .inr ⟨(s.writer.write none 0 (s.framing.pieces message)).waited + s.reader.pause,
        Nat.le_add_left _ _, ?_⟩
      simp only [hexchange]
      exact hwaits
  · -- what arrives is not looked at
    refine .inl ⟨s.exchange none message, fun later ↦ ?_⟩
    rw [exchange_of_stopped hdone]
    exact @exchange_of_stopped (s.before later) message none hdone

/-! ### Endless scripts -/

/-- An exchange without a limit of time, if nothing arrives later. -/
def exchangeInSilence (s : Stream) (message : String) : Exchange :=
  (s.before [.silence]).exchange none message

section

variable {s : Stream} {message : String} {ms : Nat}

/-- An exchange that is over although nothing arrives later is over in the same way whatever
arrives later. -/
theorem exchange_before_of_over (h : (s.exchangeInSilence message).outcome ≠ .never)
    (later : List Arrival) :
    ((s.before later).exchange none message).outcome = (s.exchangeInSilence message).outcome ∧
      ((s.before later).exchange none message).waited =
        (s.exchangeInSilence message).waited := by
  rcases s.exchange_before message with ⟨x, hx⟩ | ⟨waited, -, hwaits⟩
  · rw [exchangeInSilence, hx, hx]
    exact ⟨rfl, rfl⟩
  · exact absurd (congrArg Prod.fst hwaits.silent) h

/-- An exchange that is late although nothing arrives later is late whatever arrives later. -/
theorem lt_exchange_before (h : ms < (s.exchangeInSilence message).waited)
    (later : List Arrival) : ms < ((s.before later).exchange none message).waited := by
  rcases s.exchange_before message with ⟨x, hx⟩ | ⟨waited, -, hwaits⟩
  · rw [exchangeInSilence, hx] at h
    rwa [hx]
  · have hsilent : (s.exchangeInSilence message).waited = waited :=
      congrArg Prod.snd hwaits.silent
    exact Nat.lt_of_lt_of_le (hsilent ▸ h) (hwaits.le later)

/-- Where the pauses that are known are longer than a certain time, an exchange is late, or it does
not matter what arrives later. -/
theorem exchange_before_of_pause (h : ms < s.reader.pause) (message : String) :
    (∀ later, ms < ((s.before later).exchange none message).waited) ∨
      ∀ later, ((s.before later).exchange none message).outcome =
          (s.exchangeInSilence message).outcome ∧
        ((s.before later).exchange none message).waited =
          (s.exchangeInSilence message).waited := by
  rcases s.exchange_before message with ⟨x, hx⟩ | ⟨waited, hpause, hwaits⟩
  · refine .inr fun later ↦ ?_
    rw [exchangeInSilence, hx, hx]
    exact ⟨rfl, rfl⟩
  · exact .inl fun later ↦ Nat.lt_of_lt_of_le (Nat.lt_of_lt_of_le h hpause) (hwaits.le later)

end

/-- The transport with so many arrivals of a script after all that its reader brings. -/
def upTo (s : Stream) (script : Nat → Arrival) (n : Nat) : Stream :=
  s.before ((List.range n).map script)

/-- Time goes on in an endless script: there is no time by which all of it has arrived. -/
def TimeGoesOn (script : Nat → Arrival) : Prop :=
  ∀ ms, ∃ n, ms < (((List.range n).map script).map Arrival.pause).sum

/-- Time goes on in a script that never stops having pauses, however short they are. -/
theorem timeGoesOn_of_pause {script : Nat → Arrival}
    (h : ∀ n, ∃ m, n ≤ m ∧ 0 < (script m).pause) : TimeGoesOn script := by
  have hsucc : ∀ n, (((List.range (n + 1)).map script).map Arrival.pause).sum =
      (((List.range n).map script).map Arrival.pause).sum + (script n).pause := by
    intro n
    simp only [List.range_succ, List.map_append, List.map_cons, List.map_nil, List.sum_append,
      List.sum_singleton]
  have hmono : Monotone fun n ↦ (((List.range n).map script).map Arrival.pause).sum :=
    monotone_nat_of_le_succ fun n ↦ hsucc n ▸ Nat.le_add_right _ _
  intro ms
  induction ms with
  | zero =>
    obtain ⟨m, -, hm⟩ := h 0
    exact ⟨m + 1, by rw [hsucc]; omega⟩
  | succ ms ih =>
    obtain ⟨n, hn⟩ := ih
    obtain ⟨m, hle, hm⟩ := h n
    have hsum : ms < (((List.range m).map script).map Arrival.pause).sum :=
      Nat.lt_of_lt_of_le hn (hmono hle)
    exact ⟨m + 1, by rw [hsucc]; omega⟩

/-- More of a script is what arrives later. -/
theorem exists_upTo_eq_before {m n : Nat} (hle : m ≤ n) (s : Stream) (script : Nat → Arrival) :
    ∃ more, ∀ later, (s.upTo script n).before later = (s.upTo script m).before (more ++ later) := by
  obtain ⟨k, rfl⟩ := Nat.exists_eq_add_of_le hle
  refine ⟨(List.range k).map fun i ↦ script (m + i), fun later ↦ ?_⟩
  have hrange : (List.range (m + k)).map script =
      (List.range m).map script ++ (List.range k).map fun i ↦ script (m + i) := by
    rw [List.range_add, List.map_append, List.map_map]
    rfl
  simp only [upTo, before, Reader.before, hrange, List.append_assoc]

/-- **So much of an endless script decides.** There is a number of arrivals after which it does not
matter what arrives later: if the exchange is over after some number of arrivals and in time, it is
over so; if it is not over after any number of arrivals, or is late after some, it is late or never
over. -/
theorem exists_decided {script : Nat → Arrival} (hscript : TimeGoesOn script) (s : Stream)
    (ms : Nat) (message : String) :
    ∃ n, ∀ later,
      let x := ((s.upTo script n).before later).exchange none message
      (∀ k, ((s.upTo script k).exchangeInSilence message).outcome ≠ .never →
        ((s.upTo script k).exchangeInSilence message).waited ≤ ms →
          x.outcome = ((s.upTo script k).exchangeInSilence message).outcome ∧ x.waited ≤ ms) ∧
      ((∀ k, ((s.upTo script k).exchangeInSilence message).outcome = .never) ∨
          (∃ k, ms < ((s.upTo script k).exchangeInSilence message).waited) →
        x.outcome = .never ∨ ms < x.waited) := by
  obtain ⟨n, hn⟩ := hscript ms
  have hpause : ms < (s.upTo script n).reader.pause := by
    rw [upTo, Reader.pause, before, Reader.before, List.map_append, List.sum_append]
    omega
  -- what is known after more arrivals is a case of what may arrive later
  have hknown : ∀ k, n ≤ k → ∃ more, (s.upTo script k).exchangeInSilence message =
      ((s.upTo script n).before more).exchange none message := by
    intro k hle
    obtain ⟨more, hmore⟩ := exists_upTo_eq_before hle s script
    exact ⟨more ++ [.silence], by rw [exchangeInSilence, hmore]⟩
  have hdecided := exchange_before_of_pause hpause message
  refine ⟨n, fun later ↦ ⟨fun k hover hin ↦ ?_, fun hlate ↦ ?_⟩⟩
  · rcases Nat.le_total k n with hle | hle
    · obtain ⟨more, hmore⟩ := exists_upTo_eq_before hle s script
      obtain ⟨houtcome, hwaited⟩ := exchange_before_of_over hover (more ++ later)
      rw [hmore]
      exact ⟨houtcome, hwaited ▸ hin⟩
    · obtain ⟨more, hmore⟩ := hknown k hle
      rw [hmore] at hin ⊢
      rcases hdecided with hlate | hsame
      · exact absurd hin (Nat.not_le_of_lt (hlate more))
      · rw [(hsame more).1, (hsame later).1, (hsame later).2, ← (hsame more).2]
        exact ⟨rfl, hin⟩
  · rcases hdecided with hall | hsame
    · exact .inr (hall later)
    · rcases hlate with hnever | ⟨k, hk⟩
      · exact .inl ((hsame later).1.trans (hnever n))
      · rcases Nat.le_total k n with hle | hle
        · obtain ⟨more, hmore⟩ := exists_upTo_eq_before hle s script
          rw [hmore]
          exact .inr (lt_exchange_before hk (more ++ later))
        · obtain ⟨more, hmore⟩ := hknown k hle
          rw [hmore, (hsame more).2, ← (hsame later).2] at hk
          exact .inr hk

end Stream

end LspClient.Transport
