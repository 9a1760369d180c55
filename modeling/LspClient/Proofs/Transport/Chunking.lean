import LspClient.Proofs.Transport.Run

/-!
# How bytes arrive makes no difference

Two readers that come across the same bytes, errors and silences in the same order may still get the
bytes in different pieces and after different delays. Without a timeout no operation can tell them
apart, nor can a run of operations (`Stream.run_alike`): every outcome is the same, the same bytes
are written, the same transports are broken, and the same is left to come.

This rests on one fact about reading. What comes of it is told by what the reader comes across,
byte by byte (`readOn_eq_follow`), because a scan takes one byte at a time.
-/

namespace LspClient.Transport

/-! ### What a reader comes across -/

/-- What a reader can come across. -/
inductive Event where
  | byte (b : UInt8)
  | fail (e : IoError)
  | silence
  deriving DecidableEq, Repr

/-- What a reader comes across in an arrival. A delay is nothing. -/
def Arrival.events : Arrival → List Event
  | .data bytes => bytes.map .byte
  | .delay _ => []
  | .fail e => [.fail e]
  | .silence => [.silence]

/-- All that a reader will come across, before the end of its stream. -/
def Reader.events (r : Reader) : List Event :=
  r.unread.map .byte ++ r.arrivals.flatMap Arrival.events

/-- What comes of a scan that goes through what there is to come across, and what it leaves. -/
def Scan.follow (scan : Scan) : List Event → Outcome Error String × List Event
  | [] => (.ofExcept scan.close, [])
  | .byte b :: events =>
    match scan.byte b with
    | .more scan => follow scan events
    | .ended result => (.ofExcept result, events)
  | .fail e :: events =>
    match scan.failure? e with
    | some e => (.failed e, events)
    | none => follow scan events
  | .silence :: events => (.never, .silence :: events)

/-- Going through bytes is being fed with them. -/
theorem Scan.follow_bytes (scan : Scan) (bytes : List UInt8) (events : List Event) :
    scan.follow (bytes.map .byte ++ events) =
      match scan.feed bytes with
      | .unfinished next => next.follow events
      | .finished result rest => (.ofExcept result, rest.map .byte ++ events) := by
  induction bytes generalizing scan with
  | nil => rfl
  | cons b bytes ih =>
    rw [List.map_cons, List.cons_append, follow, feed]
    cases scan.byte b with
    | more next => exact ih next
    | ended result => rfl

/-- **Reading depends only on what the reader comes across.** How the bytes are grouped, and how
long they take, does not count. -/
theorem readOn_eq_follow (scan : Scan) (waited : Nat) (unread : List UInt8)
    (arrivals : List Arrival) :
    ((readOn none scan waited unread arrivals).outcome,
        (readOn none scan waited unread arrivals).reader.events) =
      scan.follow (unread.map .byte ++ arrivals.flatMap Arrival.events) := by
  fun_induction readOn none scan waited unread arrivals with
  | case1 arrivals scan waited unread result rest hfeed =>
    rw [Scan.follow_bytes, hfeed]
    rfl
  | case2 scan waited unread next hfeed =>
    rw [Scan.follow_bytes, hfeed]
    rfl
  | case3 scan waited unread next hfeed bytes arrivals ih =>
    rw [Scan.follow_bytes, hfeed]
    exact ih
  | case4 scan waited unread next hfeed ms arrivals _ ih =>
    rw [Scan.follow_bytes, hfeed]
    exact ih
  | case5 _ _ _ _ _ _ _ hout => exact absurd rfl hout
  | case6 scan waited unread next hfeed fault arrivals e he =>
    rw [Scan.follow_bytes, hfeed]
    simp only [List.flatMap_cons, Arrival.events, List.singleton_append, Scan.follow, he]
    rfl
  | case7 scan waited unread next hfeed fault arrivals he ih =>
    rw [Scan.follow_bytes, hfeed]
    simp only [List.flatMap_cons, Arrival.events, List.singleton_append, Scan.follow, he]
    exact ih
  | case8 scan waited unread next hfeed arrivals =>
    rw [Scan.follow_bytes, hfeed]
    rfl

/-- Readers that come across the same read the same message, and are left with the same. -/
theorem Reader.read_alike {r r' : Reader} (h : r.events = r'.events) (framing : Framing)
    (waited waited' : Nat) :
    (r.read framing none waited).outcome = (r'.read framing none waited').outcome ∧
      (r.read framing none waited).reader.events =
        (r'.read framing none waited').reader.events := by
  have hfollow := readOn_eq_follow (.start framing) waited r.unread r.arrivals
  have hfollow' := readOn_eq_follow (.start framing) waited' r'.unread r'.arrivals
  have hsame : r.unread.map .byte ++ r.arrivals.flatMap Arrival.events =
      r'.unread.map .byte ++ r'.arrivals.flatMap Arrival.events := h
  exact Prod.mk.inj (hfollow.trans (hsame ▸ hfollow'.symm))

namespace Stream

/-! ### Waiting for a response -/

/-- Waiting skips the same messages and brings back the same response. -/
theorem awaitResponse_alike {r r' : Reader} (h : r.events = r'.events) (framing : Framing)
    (attempts waited waited' : Nat) :
    let x := awaitResponse framing none attempts waited r
    let x' := awaitResponse framing none attempts waited' r'
    x.reading.outcome = x'.reading.outcome ∧
      x.reading.reader.events = x'.reading.reader.events ∧ x.skipped = x'.skipped := by
  induction attempts generalizing r r' waited waited' with
  | zero => exact ⟨rfl, h, rfl⟩
  | succ attempts ih =>
    obtain ⟨houtcome, hevents⟩ := Reader.read_alike h framing waited waited'
    simp only [awaitResponse, ← houtcome]
    cases (r.read framing none waited).outcome with
    | done message =>
      by_cases hserver : isServerMessage message = true
      · simp only [hserver, if_true]
        obtain ⟨hlater, hleft, hskipped⟩ := ih hevents (r.read framing none waited).waited
          (r'.read framing none waited').waited
        exact ⟨hlater, hleft, congrArg (message :: ·) hskipped⟩
      · simp only [hserver, Bool.false_eq_true, if_false]
        exact ⟨houtcome, hevents, trivial⟩
    | failed e => exact ⟨houtcome, hevents, rfl⟩
    | never => exact ⟨houtcome, hevents, rfl⟩

/-! ### Operations -/

/-- Two transports without a timeout that differ in nothing but in how the same bytes arrive. -/
structure Alike (s s' : Stream) : Prop where
  framing : s.framing = s'.framing
  timeout : s.timeout = none
  timeout' : s'.timeout = none
  events : s.reader.events = s'.reader.events
  writer : s.writer = s'.writer
  broken : s.broken = s'.broken

variable {s s' : Stream}

/-- Exchanges on such transports write the same, skip the same and come to the same. -/
theorem Alike.exchange (h : s.Alike s') (message : String) :
    (s.exchange none message).outcome = (s'.exchange none message).outcome ∧
      (s.exchange none message).reader.events = (s'.exchange none message).reader.events ∧
      (s.exchange none message).writer = (s'.exchange none message).writer ∧
      (s.exchange none message).skipped = (s'.exchange none message).skipped := by
  have hwriting : s'.writer.write none 0 (s'.framing.pieces message) =
      s.writer.write none 0 (s.framing.pieces message) := by
    rw [← h.framing, ← h.writer]
  by_cases hdone : (s.writer.write none 0 (s.framing.pieces message)).outcome = .done ()
  · have hdone' : (s'.writer.write none 0 (s'.framing.pieces message)).outcome = .done () := by
      rw [hwriting, hdone]
    obtain ⟨houtcome, hevents, hskipped⟩ := awaitResponse_alike h.events s.framing greatestSkip
      (s.writer.write none 0 (s.framing.pieces message)).waited
      (s.writer.write none 0 (s.framing.pieces message)).waited
    rw [exchange_of_done hdone, exchange_of_done hdone', hwriting, ← h.framing]
    exact ⟨houtcome, hevents, rfl, hskipped⟩
  · have hdone' : (s'.writer.write none 0 (s'.framing.pieces message)).outcome ≠ .done () := by
      rwa [hwriting]
    rw [exchange_of_stopped hdone, exchange_of_stopped hdone', hwriting]
    exact ⟨rfl, h.events, rfl, rfl⟩

/-- Operations on such transports come to the same and leave such transports. -/
theorem Alike.perform (h : s.Alike s') (op : Operation) :
    (s.perform op).outcome = (s'.perform op).outcome ∧
      (s.perform op).notes = (s'.perform op).notes ∧
      (s.perform op).transport.Alike (s'.perform op).transport := by
  cases hbroken : s.broken with
  | true =>
    rw [perform_of_broken hbroken, perform_of_broken (h.broken ▸ hbroken)]
    exact ⟨rfl, rfl, h⟩
  | false =>
    have hbroken' : s'.broken = false := h.broken ▸ hbroken
    cases op with
    | request message =>
      obtain ⟨houtcome, hevents, hwriter, hskipped⟩ := h.exchange message
      simp only [Stream.perform, request_of_usable hbroken, request_of_usable hbroken', h.timeout,
        h.timeout', cutOff_none, ← houtcome, ← hskipped]
      exact ⟨trivial, trivial, h.framing, rfl, rfl, hevents, hwriter, rfl⟩
    | notify message =>
      simp only [Stream.perform, notify_of_usable hbroken, notify_of_usable hbroken', ← h.framing,
        ← h.writer]
      exact ⟨trivial, trivial, rfl, h.timeout, h.timeout', h.events, rfl, rfl⟩

/-! ### Runs -/

/-- Two operations of runs that are the same, come to the same, and leave transports that differ in
nothing but in how the same bytes arrive. -/
structure Turn.Alike (t t' : Turn) : Prop where
  operation : t.operation = t'.operation
  outcome : t.outcome = t'.outcome
  after : t.after.Alike t'.after

/-- **How bytes arrive makes no difference to a run.** If two transports without a timeout are told
apart only by how the same bytes arrive, then the same operations on both have the same outcomes,
one by one, up to the one that never returns, if there is one; and after each of them the same bytes
have been written, both transports are broken or neither is, and the same is left to come. -/
theorem run_alike (h : s.Alike s') (ops : List Operation) :
    List.Forall₂ Turn.Alike (s.run ops) (s'.run ops) := by
  induction ops generalizing s s' with
  | nil => exact .nil
  | cons op ops ih =>
    obtain ⟨houtcome, -, hafter⟩ := h.perform op
    rw [run, run, ← houtcome]
    refine .cons ⟨rfl, rfl, hafter⟩ ?_
    cases (s.perform op).outcome with
    | done response => exact ih hafter
    | failed e => exact ih hafter
    | never => exact .nil

/-- A response whose only character is two bytes long, behind its header. -/
def accentedFrame : List UInt8 :=
  Framing.contentLength.frame "\"é\""

/-- A transport to which that response comes in two pieces, the first of them so many bytes long,
and then an error. -/
def cutAt (length : Nat) : Stream where
  framing := .contentLength
  reader := ⟨[], [.data (accentedFrame.take length), .delay length,
    .data (accentedFrame.drop length), .fail ⟨.connectionReset, "reset"⟩]⟩
  writer := {}

theorem cutAt_alike (m n : Nat) : (cutAt m).Alike (cutAt n) where
  framing := rfl
  timeout := rfl
  timeout' := rfl
  events := by
    have hevents : ∀ length, (cutAt length).reader.events =
        accentedFrame.map .byte ++ [.fail ⟨.connectionReset, "reset"⟩] := by
      intro length
      have hwhole := congrArg (List.map Event.byte) (accentedFrame.take_append_drop length)
      rw [List.map_append] at hwhole
      rw [← hwhole, List.append_assoc]
      rfl
    rw [hevents, hevents]
  writer := rfl
  broken := rfl

/-- Cut inside the line end of its header or inside its character, the response is brought back and
then the error is. -/
theorem run_alike_cutAt :
    let ops := [Operation.request "", Operation.request ""]
    (cutAt 18).Alike (cutAt 23) ∧
      List.Forall₂ Turn.Alike ((cutAt 18).run ops) ((cutAt 23).run ops) ∧
      ((cutAt 18).run ops).map Turn.outcome =
        [.done (some "\"é\""), .failed (.io ⟨.connectionReset, "reset"⟩)] := by
  intro ops
  have houtcomes : ((cutAt 18).run ops).map Turn.outcome =
      [.done (some "\"é\""), .failed (.io ⟨.connectionReset, "reset"⟩)] := by
    decide +kernel
  exact ⟨cutAt_alike 18 23, run_alike (cutAt_alike 18 23) ops, houtcomes⟩

end Stream

end LspClient.Transport
