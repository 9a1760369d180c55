import LspClient.Proofs.Transport.Progress

/-!
# Which message answers a request

The readings of a stream, each of which begins with what the one before it has left, are numbered
(`Reader.nthReading`), and the answer to a request is told by their numbers. It is what comes of the
first of them that does not bring a message of the server's own, be it a message, an error or no end
(`awaitResponse_eq_nthReading`), as long as that one is among as many as there are attempts; if none
of those is such a reading, the exchange fails with what the last of them has left
(`awaitResponse_of_all`). Both follow the attempts, of which each is the first reading of the stream
that the attempts before it have left.

Where the bytes of the readings lie in the stream is told by their frames
(`Reader.exists_frames_of_nthReading`). That nothing is read before the frame of the request is
written is a fact about the steps of an exchange, and holds of every state that they reach
(`Reaches.sends`).
-/

namespace LspClient.Transport

/-! ### One reading after another -/

/-- The reading with the number `n`, if each goes on with what the one before it has left. -/
def Reader.nthReading (framing : Framing) (limit : Option Nat) :
    (n : Nat) → (waited : Nat) → Reader → Reading
  | 0, waited, r => r.read framing limit waited
  | n + 1, waited, r =>
    let reading := r.read framing limit waited
    reading.reader.nthReading framing limit n reading.waited

/-- A reading brings a message of the server's own. -/
def Reading.IsSkipped (x : Reading) : Prop :=
  ∃ message, x.outcome = .done message ∧ isServerMessage message = true

instance (x : Reading) : Decidable x.IsSkipped :=
  match houtcome : x.outcome with
  | .done message =>
    decidable_of_iff (isServerMessage message = true)
      ⟨fun h ↦ ⟨message, houtcome, h⟩, fun ⟨_, hm, h⟩ ↦ Outcome.done.inj (houtcome ▸ hm) ▸ h⟩
  | .failed _ => isFalse fun ⟨_, hm, _⟩ ↦ nomatch houtcome ▸ hm
  | .never => isFalse fun ⟨_, hm, _⟩ ↦ nomatch houtcome ▸ hm

/-- The readings up to one take as many frames off the front of what is to come, and each message
that they bring is made of its frame. -/
theorem Reader.exists_frames_of_nthReading (framing : Framing) (limit : Option Nat) (n waited : Nat)
    (r : Reader) :
    ∃ frames : List (List UInt8), frames.length = n + 1 ∧
      r.incoming = frames.flatten ++ (r.nthReading framing limit n waited).reader.incoming ∧
      ∀ i (hi : i < frames.length) message,
        (r.nthReading framing limit i waited).outcome = .done message →
          (Scan.start framing).Takes message frames[i]
            (r.nthReading framing limit i waited).reader.incoming := by
  obtain ⟨taken, htaken, htakes⟩ := r.read_incoming framing limit waited
  induction n generalizing waited r taken with
  | zero =>
    refine ⟨[taken], rfl, ?_, ?_⟩
    · rw [List.flatten_singleton]
      exact htaken
    · intro i hi message hmessage
      obtain rfl : i = 0 := Nat.lt_one_iff.1 hi
      exact htakes message hmessage
  | succ n ih =>
    let first := r.read framing limit waited
    obtain ⟨next, hnext, hnextTakes⟩ := first.reader.read_incoming framing limit first.waited
    obtain ⟨frames, hlength, hincoming, hframes⟩ :=
      ih first.waited first.reader next hnext hnextTakes
    refine ⟨taken :: frames, congrArg (· + 1) hlength, ?_, ?_⟩
    · rw [List.flatten_cons, List.append_assoc, htaken]
      exact congrArg (taken ++ ·) hincoming
    · intro i hi message hmessage
      cases i with
      | zero => exact htakes message hmessage
      | succ i => exact hframes i (Nat.lt_of_succ_lt_succ hi) message hmessage

namespace Stream

/-! ### Waiting for the answer -/

section

variable {framing : Framing} {limit : Option Nat}

theorem afterReading_of_isSkipped {x : Reading} (h : x.IsSkipped) (attempts : Nat) :
    afterReading framing limit attempts x =
      (awaitResponse framing limit attempts x.waited x.reader).reading := by
  obtain ⟨message, houtcome, hserver⟩ := h
  simp only [afterReading, houtcome, hserver, if_true]

theorem afterReading_of_not_isSkipped {x : Reading} (h : ¬x.IsSkipped) (attempts : Nat) :
    afterReading framing limit attempts x = x := by
  rw [afterReading]
  cases houtcome : x.outcome with
  | done message =>
    have hserver : ¬isServerMessage message = true := fun hm ↦ h ⟨message, houtcome, hm⟩
    exact if_neg hserver
  | failed e => rfl
  | never => rfl

/-- What comes of waiting is what comes of the first reading that is not skipped, if there are
attempts enough for it. -/
theorem awaitResponse_eq_nthReading {attempts n waited : Nat} {r : Reader} (hn : n < attempts)
    (hskipped : ∀ i < n, (r.nthReading framing limit i waited).IsSkipped)
    (hother : ¬(r.nthReading framing limit n waited).IsSkipped) :
    (awaitResponse framing limit attempts waited r).reading =
      r.nthReading framing limit n waited := by
  induction n generalizing attempts waited r with
  | zero =>
    obtain ⟨attempts, rfl⟩ := Nat.exists_eq_succ_of_ne_zero (Nat.ne_zero_of_lt hn)
    rw [awaitResponse_succ]
    exact afterReading_of_not_isSkipped hother attempts
  | succ n ih =>
    obtain ⟨attempts, rfl⟩ := Nat.exists_eq_succ_of_ne_zero (Nat.ne_zero_of_lt hn)
    have hfirst : (r.read framing limit waited).IsSkipped := hskipped 0 n.succ_pos
    rw [awaitResponse_succ, afterReading_of_isSkipped hfirst]
    exact ih (Nat.lt_of_succ_lt_succ hn) (fun i hi ↦ hskipped (i + 1) (Nat.succ_lt_succ hi)) hother

/-- If as many readings are skipped as there are attempts, there is no answer, and what the last of
them leaves is left. -/
theorem awaitResponse_of_all {attempts n waited : Nat} {r : Reader} (hn : attempts = n + 1)
    (hskipped : ∀ i < attempts, (r.nthReading framing limit i waited).IsSkipped) :
    (awaitResponse framing limit attempts waited r).reading =
      ⟨.failed onlyServerMessages, (r.nthReading framing limit n waited).reader,
        (r.nthReading framing limit n waited).waited⟩ := by
  induction n generalizing attempts waited r with
  | zero =>
    subst hn
    have hfirst : (r.read framing limit waited).IsSkipped := hskipped 0 Nat.one_pos
    rw [awaitResponse_succ, afterReading_of_isSkipped hfirst]
    rfl
  | succ n ih =>
    subst hn
    have hfirst : (r.read framing limit waited).IsSkipped := hskipped 0 (Nat.succ_pos _)
    rw [awaitResponse_succ, afterReading_of_isSkipped hfirst]
    exact ih rfl fun i hi ↦ hskipped (i + 1) (Nat.succ_lt_succ hi)

end

/-! ### The order of writing and reading -/

/-- The states that the steps of an operation can reach from the one in which its frame is still to
be written, whatever the clock shows at each of them. -/
inductive Reaches (op : Operation) (s : Stream) : Progress → Stream → Prop
  | start : Reaches op s (.writing (s.framing.pieces op.message)) s
  | step {p p' : Progress} {s₁ s₂ : Stream} (clock : Nat) (h : Reaches op s p s₁)
      (hnext : p.next op clock s₁ = .more p' s₂) : Reaches op s p' s₂

/-- While a frame is written nothing is read, and what is still to be written completes the frame;
after that the frame is there. -/
def Progress.Sends (base : Stream) (frame : List UInt8) (s : Stream) : Progress → Prop
  | .writing pieces | .held pieces _ | .putting pieces =>
    s.reader = base.reader ∧ s.writer.written ++ pieces.flatten = base.writer.written ++ frame
  | _ => s.writer.written = base.writer.written ++ frame

/-- A step keeps to that. -/
def Step.Sends (base : Stream) (frame : List UInt8) : Step → Prop
  | .more p s => p.Sends base frame s
  | .idle | .ended _ _ => True

variable {op : Operation} {s s' base : Stream} {p : Progress} {frame : List UInt8} {clock : Nat}

theorem Progress.Sends.next (h : p.Sends base frame s) :
    (p.next op clock s).Sends base frame := by
  revert h
  fun_cases Progress.next op clock s p with
  | case6 hflush =>
    rintro ⟨-, hwritten⟩
    rw [List.flatten_nil, List.append_nil] at hwritten
    cases op with
    | request message => exact hwritten
    | notify message => trivial
  | case10 b piece pieces writer htake =>
    -- the byte goes over from the pieces to what is written
    rintro ⟨hreader, hwritten⟩
    refine ⟨hreader, ?_⟩
    obtain ⟨out, hout, -, hdone⟩ := s.writer.take_written [b] piece.length
    rw [htake] at hout hdone
    obtain rfl := hdone rfl
    have hbyte : writer.written = s.writer.written ++ [b] := hout
    rw [← hwritten]
    simp [hbyte]
  | case5 | case7 | case8 | case11 | case12 | case13 | case22 | case24 | case26 | case27 =>
    intro _
    trivial
  | case1 | case2 | case3 | case4 | case9 | case14 | case15 | case16 | case17 | case18 | case19 |
    case20 | case21 | case23 | case25 =>
    intro h
    exact h

theorem Reaches.sends (h : Reaches op s p s') : p.Sends s (s.framing.frame op.message) s' := by
  induction h with
  | start => exact ⟨rfl, rfl⟩
  | @step p p' s₁ s₂ clock h hnext ih =>
    have hsends : (p.next op clock s₁).Sends s (s.framing.frame op.message) := ih.next
    rwa [hnext] at hsends

/-- Where something has been read, the whole frame has been written. -/
theorem Reaches.reader_eq_or (h : Reaches op s p s') :
    s'.reader = s.reader ∨
      s'.writer.written = s.writer.written ++ s.framing.frame op.message := by
  have hsends := h.sends
  cases p with
  | writing | held | putting => exact .inl hsends.1
  | awaiting | reading | waiting | judging => exact .inr hsends

/-! ### Exchanges -/

section

variable {limit : Option Nat} {message : String} {n : Nat}

/-- On a stream that takes all bytes in time, an exchange writes its frame and waits. -/
theorem exchange_of_room_eq_none (hroom : s.writer.room = none)
    (hflush : s.writer.flushFault = none)
    (hin : inTime limit (s.writer.delay ((s.framing.frame message).length + 1)) = true) :
    s.exchange limit message =
      let x := awaitResponse s.framing limit greatestSkip
        (s.writer.delay ((s.framing.frame message).length + 1)) s.reader
      ⟨x.reading.outcome, x.reading.reader,
        { s.writer with
          written := s.writer.written ++ s.framing.frame message
          delays := s.writer.delays.drop ((s.framing.frame message).length + 1) },
        x.reading.waited, x.skipped⟩ := by
  have hwrite : s.writer.write limit 0 (s.framing.pieces message) = _ :=
    Writer.write_of_room_eq_none hroom (by rw [Nat.zero_add]; exact hin)
  have hdone : (s.writer.write limit 0 (s.framing.pieces message)).outcome = .done () := by
    rw [hwrite, Writer.flushed, hflush]
  rw [exchange_of_done hdone, hwrite, Nat.zero_add]
  rfl

/-- Such an exchange comes to what the first reading comes to that is not skipped. -/
theorem exchange_eq_nthReading (hroom : s.writer.room = none)
    (hflush : s.writer.flushFault = none) {start : Nat}
    (hstart : start = s.writer.delay ((s.framing.frame message).length + 1))
    (hin : inTime limit start = true) (hn : n < greatestSkip)
    (hskipped : ∀ i < n, (s.reader.nthReading s.framing limit i start).IsSkipped)
    (hother : ¬(s.reader.nthReading s.framing limit n start).IsSkipped) :
    (s.exchange limit message).outcome = (s.reader.nthReading s.framing limit n start).outcome ∧
      (s.exchange limit message).reader =
        (s.reader.nthReading s.framing limit n start).reader := by
  have hawait := awaitResponse_eq_nthReading hn hskipped hother
  subst hstart
  rw [exchange_of_room_eq_none hroom hflush hin]
  exact ⟨congrArg Reading.outcome hawait, congrArg Reading.reader hawait⟩

/-- Such an exchange fails if as many readings are skipped as it makes. -/
theorem exchange_of_all (hroom : s.writer.room = none) (hflush : s.writer.flushFault = none)
    {start : Nat} (hstart : start = s.writer.delay ((s.framing.frame message).length + 1))
    (hin : inTime limit start = true) (hn : greatestSkip = n + 1)
    (hskipped : ∀ i < greatestSkip, (s.reader.nthReading s.framing limit i start).IsSkipped) :
    (s.exchange limit message).outcome = .failed onlyServerMessages ∧
      (s.exchange limit message).reader =
        (s.reader.nthReading s.framing limit n start).reader := by
  have hawait := awaitResponse_of_all hn hskipped
  subst hstart
  rw [exchange_of_room_eq_none hroom hflush hin]
  simp only [hawait, and_self]

end

/-- **A request is answered by the first message that is not the server's own.** Let a stream take
all bytes, under a limit in time, and let its readings be numbered from zero.

* If the first of them that does not bring a message of the server's own has a number below 1000,
  an exchange comes to what that reading comes to, be it a message or an error, and leaves what it
  leaves.
* If 1000 readings bring messages of the server's own, the exchange fails, and leaves what the last
  of them leaves.
* As many readings take as many frames off the front of what is to come, and each message is made of
  its frame.
* Whatever comes of the exchange, it has written one frame, the one of the request.
* Among the steps of the exchange there is none that reads before that frame is written. -/
theorem exchange_answered {s : Stream} (hroom : s.writer.room = none)
    (hflush : s.writer.flushFault = none) (limit : Option Nat) (message : String)
    (hin : inTime limit (s.writer.delay ((s.framing.frame message).length + 1)) = true) :
    let x := s.exchange limit message
    let start := s.writer.delay ((s.framing.frame message).length + 1)
    let reading := fun n ↦ s.reader.nthReading s.framing limit n start
    (∀ n < 1000, (∀ i < n, (reading i).IsSkipped) → ¬(reading n).IsSkipped →
      x.outcome = (reading n).outcome ∧ x.reader = (reading n).reader) ∧
    ((∀ i < 1000, (reading i).IsSkipped) →
      x.outcome = .failed (.framing "no response after skipping 1000 server messages") ∧
        x.reader = (reading 999).reader) ∧
    (∀ n, ∃ frames : List (List UInt8), frames.length = n + 1 ∧
      s.reader.incoming = frames.flatten ++ (reading n).reader.incoming ∧
      ∀ i (hi : i < frames.length) m, (reading i).outcome = .done m →
        (Scan.start s.framing).Takes m frames[i] (reading i).reader.incoming) ∧
    x.writer =
      { s.writer with
        written := s.writer.written ++ s.framing.frame message
        delays := s.writer.delays.drop ((s.framing.frame message).length + 1) } ∧
    ∀ p s', Reaches (.request message) s p s' →
      s'.reader = s.reader ∨ s'.writer.written = s.writer.written ++ s.framing.frame message := by
  intro x start reading
  refine ⟨?_, ?_, ?_, ?_, ?_⟩
  · intro n hn hskipped hother
    exact exchange_eq_nthReading hroom hflush rfl hin hn hskipped hother
  · intro hskipped
    exact exchange_of_all hroom hflush rfl hin rfl hskipped
  · intro n
    exact s.reader.exists_frames_of_nthReading s.framing limit n start
  · exact congrArg Exchange.writer (exchange_of_room_eq_none hroom hflush hin)
  · intro p s' h
    exact h.reader_eq_or

/-- A notification of the server's own arrives before the answer, and something else after it. The
two bytes of the frame have to wait, and the five milliseconds are enough for them. -/
theorem exchange_answered_second :
    let s : Stream :=
      { framing := .lines
        reader := ⟨Utf8.bytes "\x7b\"method\":\"a\"\x7d\n\x7b\"id\":1\x7d\n[]\n", []⟩
        writer := { delays := [2, 3] } }
    s.writer.room = none ∧ s.writer.flushFault = none ∧
      inTime (some 5) (s.writer.delay ((s.framing.frame "1").length + 1)) = true ∧
      (s.exchange (some 5) "1").outcome = .done "\x7b\"id\":1\x7d" ∧
      (s.exchange (some 5) "1").reader = ⟨Utf8.bytes "[]\n", []⟩ ∧
      (s.exchange (some 5) "1").writer.written = Utf8.bytes "1\n" := by
  intro s
  have hin : inTime (some 5) (s.writer.delay ((s.framing.frame "1").length + 1)) = true := by
    decide +kernel
  obtain ⟨hanswer, -, -, hwriter, -⟩ := @exchange_answered s rfl rfl (some 5) "1" hin
  have hskipped : ∀ i < 1, (s.reader.nthReading .lines (some 5) i 5).IsSkipped := by
    decide +kernel
  have hother : ¬(s.reader.nthReading .lines (some 5) 1 5).IsSkipped := by
    decide +kernel
  obtain ⟨houtcome, hreader⟩ := hanswer 1 (by decide) hskipped hother
  refine ⟨rfl, rfl, hin, houtcome.trans ?_, hreader.trans ?_, congrArg Writer.written hwriter⟩
  · decide +kernel
  · decide +kernel

end Stream

end LspClient.Transport
