import LspClient.Proofs.Transport.Exchange

/-!
# The steps of an exchange

An exchange taken apart into its steps, so that something else can happen between any two of them.
A step finds out how long the next byte has to wait, writes it or flushes, takes one byte or the
next arrival, looks at a message, or finds that the exchange is over (`Progress.next`). There is no
step while the exchange waits, be it for time to pass or for something that never comes.

What is still to come of an exchange under way is told by the definitions of whole exchanges
(`Progress.rest`), and by the time of the clock. It stays the same from step to step
(`next_leadsTo`), and as time passes while the exchange waits (`rest_of_later`). If the exchange
still waits when its time is up, it would not be over in time (`rest_of_late`). So the steps,
whatever comes between them, lead to what the operation does when it is performed
(`perform_eq_rest`).
-/

namespace LspClient.Transport

/-! ### Single bytes -/

section

variable {limit : Option Nat} {scan next : Scan} {waited : Nat} {b : UInt8} {unread : List UInt8}
  {arrivals : List Arrival}

theorem readOn_cons_of_more (h : scan.byte b = .more next) :
    readOn limit scan waited (b :: unread) arrivals =
      readOn limit next waited unread arrivals := by
  rw [readOn.eq_def, readOn.eq_def limit next]
  simp only [Scan.feed, h]

theorem readOn_cons_of_ended {result : Except Error String} (h : scan.byte b = .ended result) :
    readOn limit scan waited (b :: unread) arrivals =
      ⟨.ofExcept result, ⟨unread, arrivals⟩, waited⟩ := by
  refine readOn_of_finished ?_
  simp only [Scan.feed, h]

end

namespace Writer

variable {limit : Option Nat} {waited ms : Nat} {w : Writer} {b : UInt8} {piece : List UInt8}
  {pieces : List (List UInt8)} {delays : List Nat}

theorem take_nil (w : Writer) (behind : Nat) : w.take [] behind = (.done (), w) := by
  rcases w with ⟨written, delays, _ | ⟨n, stop⟩, fault⟩
  · simp only [take, List.append_nil]
  · simp only [take, List.length_nil, Nat.zero_le, if_true, List.take_nil, List.append_nil,
      Nat.sub_zero]

/-- A stream that has no room left takes nothing. -/
theorem take_of_full {stop : Stop} (h : w.room = some (0, stop)) (b : UInt8) (piece : List UInt8)
    (behind : Nat) :
    w.take (b :: piece) behind = (stop.outcome (piece.length + 1 + behind), w) := by
  rcases w with ⟨written, delays, room, fault⟩
  obtain rfl : room = some (0, stop) := h
  simp [take]

/-- A stream that has room takes a byte. -/
theorem take_of_room {n : Nat} {stop : Stop} (h : w.room = some (n + 1, stop)) (b : UInt8)
    (behind : Nat) :
    w.take [b] behind =
      (.done (), { w with written := w.written ++ [b], room := some (n, stop) }) := by
  simp [take, h]

/-- Bytes are taken one after another. -/
theorem take_cons (w : Writer) (b : UInt8) (piece : List UInt8) (behind : Nat) :
    w.take (b :: piece) behind =
      match w.take [b] (piece.length + behind) with
      | (.done (), w) => w.take piece behind
      | stopped => stopped := by
  cases hroom : w.room with
  | none =>
    rw [take_of_room_eq_none hroom]
    simp only [take, hroom, List.append_assoc, List.singleton_append]
  | some room =>
    obtain ⟨_ | n, stop⟩ := room
    · have hstop := stop.outcome_ne_done (piece.length + 1 + behind)
      have hleft : ([] : List UInt8).length + 1 + (piece.length + behind) =
          piece.length + 1 + behind := by
        rw [List.length_nil]
        omega
      rw [take_of_full hroom, take_of_full hroom, hleft]
      cases houtcome : stop.outcome (piece.length + 1 + behind) with
      | done u => exact absurd houtcome hstop
      | failed e => rfl
      | never => rfl
    · rw [take_of_room hroom]
      simp only [take, hroom, List.append_assoc, List.singleton_append, List.length_cons,
        List.take_succ_cons, Nat.add_le_add_iff_right, Nat.add_sub_add_right]

/-- A byte is not taken by a stream that blocks, and the writer stays as it is. -/
theorem eq_of_take_eq_never {w' : Writer} {behind : Nat} (h : w.take [b] behind = (.never, w')) :
    w' = w := by
  cases hroom : w.room with
  | none => rw [take_of_room_eq_none hroom] at h; cases h
  | some room =>
    obtain ⟨_ | n, stop⟩ := room
    · rw [take_of_full hroom] at h
      exact (Prod.mk.inj h).2.symm
    · rw [take_of_room hroom] at h
      cases h

/-- Without delays a piece is taken at once. -/
theorem writePiece_of_delays_eq_nil (h : w.delays = []) :
    w.writePiece limit waited piece = ⟨(w.take piece 0).1, (w.take piece 0).2, waited⟩ := by
  cases piece with
  | nil => rw [writePiece, take_nil]
  | cons b piece => rw [writePiece, h]

/-- Writes on from a byte, or from the flush, that does not have to wait any longer. -/
def resume (limit : Option Nat) (waited : Nat) (w : Writer) : List (List UInt8) → Writing
  | [] => ⟨w.flushed, w, waited⟩
  | [] :: pieces => w.write limit waited pieces
  | (b :: piece) :: pieces =>
    match w.take [b] piece.length with
    | (.done (), w) => w.write limit waited (piece :: pieces)
    | (outcome, w) => ⟨outcome, w, waited⟩

/-- Where there is no delay, writing goes on at once. -/
theorem write_of_delays_eq_nil (h : w.delays = []) :
    w.write limit waited pieces = w.resume limit waited pieces := by
  rcases pieces with _ | ⟨_ | ⟨b, piece⟩, pieces⟩
  · rw [write, flush, h]
    rfl
  · rfl
  · rw [write.eq_def, resume]
    simp only [writePiece_of_delays_eq_nil h, take_cons w b piece 0, Nat.add_zero]
    have hdelays := w.take_delays [b] piece.length
    rcases htake : w.take [b] piece.length with ⟨outcome, w'⟩
    rw [htake] at hdelays
    cases outcome with
    | done u =>
      change _ = w'.write limit waited (piece :: pieces)
      rw [write.eq_def limit waited w']
      simp only [writePiece_of_delays_eq_nil (hdelays.trans h)]
    | failed e => rfl
    | never => rfl

/-- After a delay that is over in time, writing goes on. -/
theorem write_of_delay (h : w.delays = ms :: delays)
    (hne : ∀ rest, pieces = [] :: rest → False) (hin : inTime limit (waited + ms) = true) :
    w.write limit waited pieces = resume limit (waited + ms) { w with delays } pieces := by
  rcases pieces with _ | ⟨_ | ⟨b, piece⟩, pieces⟩
  · exact flush_of_delay h hin
  · exact (hne pieces rfl).elim
  · rw [write.eq_def, resume]
    simp only [writePiece, h, hin, if_true]
    rcases htake : take { w with delays } [b] piece.length with ⟨outcome, w'⟩
    cases outcome with
    | done u =>
      change _ = w'.write limit (waited + ms) (piece :: pieces)
      rw [write.eq_def limit (waited + ms) w']
    | failed e => rfl
    | never => rfl

/-- After a delay that is too long, nothing is written any more. -/
theorem write_of_delay_late (h : w.delays = ms :: delays)
    (hne : ∀ rest, pieces = [] :: rest → False) (hout : inTime limit (waited + ms) = false) :
    w.write limit waited pieces = ⟨.never, { w with delays }, waited + ms⟩ := by
  rcases pieces with _ | ⟨_ | ⟨b, piece⟩, pieces⟩
  · exact flush_of_late h hout
  · exact (hne pieces rfl).elim
  · have hpiece : w.writePiece limit waited (b :: piece) =
        ⟨.never, { w with delays }, waited + ms⟩ :=
      writePiece_cons_of_late h hout
    rw [write_cons_of_stopped (by rw [hpiece]; exact nofun), hpiece]

end Writer

namespace Stream

/-! ### Steps -/

/-- How far an exchange has come. -/
inductive Progress where
  /-- These pieces of the frame are still to be written. -/
  | writing (pieces : List (List UInt8))
  /-- These pieces are still to be written, and the next byte or the flush is held up until the
  clock shows `due`. -/
  | held (pieces : List (List UInt8)) (due : Nat)
  /-- These pieces are still to be written, and it is the turn of the next byte or of the flush. -/
  | putting (pieces : List (List UInt8))
  /-- Between two messages; so many more may be read. -/
  | awaiting (attempts : Nat)
  /-- In a message, with so many to be read after it. -/
  | reading (attempts : Nat) (scan : Scan)
  /-- In a message, and nothing arrives until the clock shows `due`. -/
  | waiting (attempts : Nat) (scan : Scan) (due : Nat)
  /-- The reading of a message has ended. -/
  | judging (attempts : Nat) (result : Except Error String)

/-- What a step comes to. -/
inductive Step where
  /-- There is none. The exchange waits. -/
  | idle
  /-- The exchange goes on. -/
  | more (p : Progress) (s : Stream)
  /-- The exchange is over. -/
  | ended (result : Except Error (Option String)) (s : Stream)

/-- What follows when the frame is written. -/
def Operation.afterWriting : Operation → Stream → Step
  | .request _, s => .more (.awaiting greatestSkip) s
  | .notify _, s => .ended (.ok none) s

/-- The next step of an exchange. -/
def Progress.next (op : Operation) (clock : Nat) (s : Stream) : Progress → Step
  | .writing ([] :: pieces) => .more (.writing pieces) s
  | .writing pieces =>
    match s.writer.delays with
    | [] => .more (.putting pieces) s
    | ms :: delays =>
      .more (.held pieces (clock + ms)) { s with writer := { s.writer with delays } }
  | .held pieces due => if due ≤ clock then .more (.putting pieces) s else .idle
  | .putting [] =>
    match s.writer.flushed with
    | .done () => op.afterWriting s
    | .failed e => .ended (.error e) s
    | .never => .idle
  | .putting ([] :: pieces) => .more (.writing pieces) s
  | .putting ((b :: piece) :: pieces) =>
    match s.writer.take [b] piece.length with
    | (.done (), writer) => .more (.writing (piece :: pieces)) { s with writer }
    | (.failed e, writer) => .ended (.error e) { s with writer }
    | (.never, _) => .idle
  | .awaiting 0 => .ended (.error onlyServerMessages) s
  | .awaiting (attempts + 1) => .more (.reading attempts (.start s.framing)) s
  | .reading attempts scan =>
    match s.reader with
    | ⟨b :: unread, arrivals⟩ =>
      let s := { s with reader := ⟨unread, arrivals⟩ }
      match scan.byte b with
      | .more scan => .more (.reading attempts scan) s
      | .ended result => .more (.judging attempts result) s
    | ⟨[], []⟩ => .more (.judging attempts scan.close) s
    | ⟨[], .data bytes :: arrivals⟩ =>
      .more (.reading attempts scan) { s with reader := ⟨bytes, arrivals⟩ }
    | ⟨[], .delay ms :: arrivals⟩ =>
      .more (.waiting attempts scan (clock + ms)) { s with reader := ⟨[], arrivals⟩ }
    | ⟨[], .fail fault :: arrivals⟩ =>
      let s := { s with reader := ⟨[], arrivals⟩ }
      match scan.failure? fault with
      | some e => .more (.judging attempts (.error e)) s
      | none => .more (.reading attempts scan) s
    | ⟨[], .silence :: _⟩ => .idle
  | .waiting attempts scan due =>
    if due ≤ clock then .more (.reading attempts scan) s else .idle
  | .judging attempts (.ok message) =>
    if isServerMessage message then .more (.awaiting attempts) s else .ended (.ok (some message)) s
  | .judging _ (.error e) => .ended (.error e) s

/-! ### What is still to come -/

/-- What comes of awaiting a response when a message has been read, with so many attempts left. -/
def afterReading (framing : Framing) (limit : Option Nat) (attempts : Nat) (x : Reading) :
    Reading :=
  match x.outcome with
  | .done message =>
    if isServerMessage message then
      (awaitResponse framing limit attempts x.waited x.reader).reading
    else x
  | _ => x

theorem awaitResponse_succ (framing : Framing) (limit : Option Nat) (attempts waited : Nat)
    (r : Reader) :
    (awaitResponse framing limit (attempts + 1) waited r).reading =
      afterReading framing limit attempts (r.read framing limit waited) := by
  rw [awaitResponse, afterReading]
  cases houtcome : (r.read framing limit waited).outcome with
  | done message => by_cases hserver : isServerMessage message = true <;> simp [hserver]
  | failed e => rfl
  | never => rfl

/-- The outcome of a request, and the transport, after what came of waiting for the response. -/
def responded (s : Stream) (x : Reading) : Outcome Error (Option String) × Stream :=
  (x.outcome.map some, { s with reader := x.reader })

/-- What comes of an exchange after what came of writing its frame. -/
def Operation.rest (op : Operation) (s : Stream) (x : Writing) :
    Outcome Error (Option String) × Stream :=
  let s := { s with writer := x.writer }
  match x.outcome with
  | .done () =>
    match op with
    | .request _ =>
      responded s (awaitResponse s.framing s.timeout greatestSkip x.waited s.reader).reading
    | .notify _ => (.done none, s)
  | .failed e => (.failed e, s)
  | .never => (.never, s)

/-- What comes of an exchange that was started at `start` and has come so far, before it is cut off:
its outcome and the transport. -/
def Progress.rest (op : Operation) (start clock : Nat) (s : Stream) :
    Progress → Outcome Error (Option String) × Stream
  | .writing pieces => op.rest s (s.writer.write (op.limit s.timeout) (clock - start) pieces)
  | .held pieces due =>
    if inTime (op.limit s.timeout) (due - start) then
      op.rest s (s.writer.resume (op.limit s.timeout) (due - start) pieces)
    else (.never, s)
  | .putting pieces => op.rest s (s.writer.resume (op.limit s.timeout) (clock - start) pieces)
  | .awaiting attempts =>
    responded s
      (awaitResponse s.framing (op.limit s.timeout) attempts (clock - start) s.reader).reading
  | .reading attempts scan =>
    responded s (afterReading s.framing (op.limit s.timeout) attempts
      (readOn (op.limit s.timeout) scan (clock - start) s.reader.unread s.reader.arrivals))
  | .waiting attempts scan due =>
    if inTime (op.limit s.timeout) (due - start) then
      responded s (afterReading s.framing (op.limit s.timeout) attempts
        (readOn (op.limit s.timeout) scan (due - start) s.reader.unread s.reader.arrivals))
    else (.never, s)
  | .judging attempts result =>
    responded s (afterReading s.framing (op.limit s.timeout) attempts
      ⟨.ofExcept result, s.reader, clock - start⟩)

/-- How late it may become while an exchange waits. -/
def Progress.due? : Progress → Option Nat
  | .held _ due => some due
  | .waiting _ _ due => some due
  | _ => none

/-- What comes of an exchange agrees with what a step comes to. -/
def Step.LeadsTo (op : Operation) (start clock : Nat)
    (x : Outcome Error (Option String) × Stream) : Step → Prop
  | .idle => True
  | .more p s => p.rest op start clock s = x
  | .ended result s => (.ofExcept result, s) = x

variable {op : Operation} {start clock : Nat} {s s' : Stream} {p p' : Progress}

/-- A step leads on to what was still to come before it. -/
theorem next_leadsTo (hstart : start ≤ clock)
    (hlimit : inTime (op.limit s.timeout) (clock - start) = true)
    (hdue : inTime p.due? clock = true) :
    (p.next op clock s).LeadsTo op start clock (p.rest op start clock s) := by
  -- the time at which a wait is over is the time that will have gone by then
  have hafter : ∀ ms, clock + ms - start = clock - start + ms := fun _ ↦ Nat.sub_add_comm hstart
  fun_cases Progress.next op clock s p with
  | case1 pieces => rfl
  | case2 pieces hne hdelays =>
    rw [Progress.rest, Writer.write_of_delays_eq_nil hdelays]
    rfl
  | case3 pieces hne ms delays hdelays =>
    rw [Step.LeadsTo, Progress.rest, Progress.rest, hafter]
    cases hin : inTime (op.limit s.timeout) (clock - start + ms) with
    | true => rw [Writer.write_of_delay hdelays hne hin]; rfl
    | false => rw [Writer.write_of_delay_late hdelays hne hin]; rfl
  | case4 pieces due hle =>
    obtain rfl : due = clock := Nat.le_antisymm hle (of_decide_eq_true hdue)
    rw [Progress.rest, if_pos hlimit]
    rfl
  | case5 => trivial
  | case6 hflush =>
    rw [Progress.rest, Writer.resume, hflush]
    cases op <;> rfl
  | case7 e hflush =>
    rw [Progress.rest, Writer.resume, hflush]
    rfl
  | case8 => trivial
  | case9 pieces => rfl
  | case10 b piece pieces writer htake =>
    rw [Progress.rest, Writer.resume, htake]
    rfl
  | case11 b piece pieces e writer htake =>
    rw [Progress.rest, Writer.resume, htake]
    rfl
  | case12 => trivial
  | case13 => rfl
  | case14 attempts =>
    rw [Progress.rest, awaitResponse_succ]
    rfl
  | case15 attempts scan b unread arrivals hreader _ next hb =>
    rw [Progress.rest, hreader, readOn_cons_of_more hb]
    rfl
  | case16 attempts scan b unread arrivals hreader _ result hb =>
    rw [Progress.rest, hreader, readOn_cons_of_ended hb]
    rfl
  | case17 attempts scan hreader =>
    rw [Progress.rest, hreader, readOn_end]
    change Progress.rest op start clock s (.judging attempts scan.close) = _
    rw [Progress.rest, hreader]
  | case18 attempts scan bytes arrivals hreader =>
    rw [Progress.rest, hreader, readOn_data]
    rfl
  | case19 attempts scan ms arrivals hreader =>
    rw [Progress.rest, hreader]
    change Progress.rest op start clock { s with reader := ⟨[], arrivals⟩ }
      (.waiting attempts scan (clock + ms)) = _
    rw [Progress.rest, hafter]
    cases hin : inTime (op.limit s.timeout) (clock - start + ms) with
    | true => rw [readOn_delay hin]; rfl
    | false => rw [readOn_delay_late hin]; rfl
  | case20 attempts scan fault arrivals hreader _ e he =>
    rw [Progress.rest, hreader, readOn_fail he]
    rfl
  | case21 attempts scan fault arrivals hreader _ he =>
    rw [Progress.rest, hreader, readOn_fail_retried he]
    rfl
  | case22 => trivial
  | case23 attempts scan due hle =>
    obtain rfl : due = clock := Nat.le_antisymm hle (of_decide_eq_true hdue)
    rw [Progress.rest, if_pos hlimit]
    rfl
  | case24 => trivial
  | case25 attempts message hserver =>
    change Progress.rest op start clock s (.awaiting attempts) = _
    simp only [Progress.rest, afterReading, Outcome.ofExcept, hserver, if_true]
  | case26 attempts message hserver =>
    simp only [Step.LeadsTo, Progress.rest, afterReading, Outcome.ofExcept, hserver,
      Bool.false_eq_true, if_false]
    rfl
  | case27 => rfl

/-- A step leaves the timeout and the mark alone, and nothing is due already. -/
def Step.Keeps (clock : Nat) (s : Stream) : Step → Prop
  | .idle => True
  | .more p s' => s'.timeout = s.timeout ∧ s'.broken = s.broken ∧ inTime p.due? clock = true
  | .ended _ s' => s'.timeout = s.timeout ∧ s'.broken = s.broken

theorem next_keeps (op : Operation) (clock : Nat) (s : Stream) (p : Progress) :
    (p.next op clock s).Keeps clock s := by
  fun_cases Progress.next op clock s p with
  | case6 => cases op <;> simp [Operation.afterWriting, Step.Keeps, Progress.due?, inTime]
  | case3 pieces hne ms | case19 attempts scan ms =>
    exact ⟨rfl, rfl, decide_eq_true (Nat.le_add_right clock ms)⟩
  | case7 | case11 | case13 | case26 | case27 => exact ⟨rfl, rfl⟩
  | case5 | case8 | case12 | case22 | case24 => trivial
  | case1 | case2 | case4 | case9 | case10 | case14 | case15 | case16 | case17 | case18 | case20 |
    case21 | case23 | case25 => exact ⟨rfl, rfl, rfl⟩

/-! ### Waiting -/

/-- An exchange that waits would wait for ever, or waits until a time that is not now. -/
theorem rest_of_idle (h : p.next op clock s = .idle) :
    (p.due? = none ∧ ∀ start clock, p.rest op start clock s = (.never, s)) ∨
      ∃ due, p.due? = some due ∧ clock < due := by
  revert h
  fun_cases Progress.next op clock s p with
  | case5 pieces due hdue | case24 attempts scan due hdue =>
    intro _
    exact .inr ⟨due, rfl, Nat.lt_of_not_le hdue⟩
  | case8 hflush =>
    intro _
    refine .inl ⟨rfl, fun start clock ↦ ?_⟩
    rw [Progress.rest, Writer.resume, hflush]
    rfl
  | case12 b piece pieces writer htake =>
    intro _
    refine .inl ⟨rfl, fun start clock ↦ ?_⟩
    obtain rfl := Writer.eq_of_take_eq_never htake
    rw [Progress.rest, Writer.resume, htake]
    rfl
  | case22 attempts scan arrivals hreader =>
    intro _
    refine .inl ⟨rfl, fun start clock ↦ ?_⟩
    rw [Progress.rest, hreader, readOn_silence]
    change ((.never, { s with reader := ⟨[], .silence :: arrivals⟩ }) :
      Outcome Error (Option String) × Stream) = (.never, s)
    rw [← hreader]
  | case6 =>
    intro h
    cases op <;> cases h
  | _ =>
    intro h
    cases h

/-- Of an exchange that waits until a certain time, it does not matter what the clock shows. -/
theorem rest_of_due {due : Nat} (h : p.due? = some due) (start clock later : Nat) :
    p.rest op start later s = p.rest op start clock s := by
  cases p with
  | held | waiting => rfl
  | writing | putting | awaiting | reading | judging => cases h

/-- An exchange that waits until it is too late is not over in time. -/
theorem rest_of_due_late {due : Nat} (h : p.due? = some due)
    (hout : inTime (op.limit s.timeout) (due - start) = false) :
    p.rest op start clock s = (.never, s) := by
  have hlate : ¬inTime (op.limit s.timeout) (due - start) = true := by simp [hout]
  cases p with
  | held pieces due' =>
    obtain rfl := Option.some.inj h
    exact if_neg hlate
  | waiting attempts scan due' =>
    obtain rfl := Option.some.inj h
    exact if_neg hlate
  | writing | putting | awaiting | reading | judging => cases h

/-- Time that passes while an exchange waits changes nothing of what is still to come. -/
theorem rest_of_later (h : p.next op clock s = .idle) (later : Nat) :
    p.rest op start later s = p.rest op start clock s := by
  rcases rest_of_idle h with ⟨-, hnever⟩ | ⟨due, hdue, -⟩
  · rw [hnever, hnever]
  · exact rest_of_due hdue start clock later

/-- An exchange that waits when its time is up would not be over in time. -/
theorem rest_of_late (h : p.next op clock s = .idle) {ms : Nat}
    (hlimit : op.limit s.timeout = some ms) (hlate : start + ms ≤ clock) :
    p.rest op start clock s = (.never, s) := by
  rcases rest_of_idle h with ⟨-, hnever⟩ | ⟨due, hdue, hlt⟩
  · exact hnever start clock
  · have hout : ¬due - start ≤ ms := by omega
    exact rest_of_due_late hdue (by rw [hlimit]; exact decide_eq_false hout)

/-! ### Whole exchanges -/

/-- What is left of an exchange when it is cut off if need be and the transport is marked. -/
def settle (limit : Option Nat) (x : Outcome Error (Option String) × Stream) :
    Outcome Error (Option String) × Stream :=
  let outcome := cutOff limit x.1
  (outcome, { x.2 with broken := isFailure outcome })

/-- What comes of a request that has its frame to write is what comes of its exchange. -/
theorem rest_request (s : Stream) (message : String) (clock : Nat) :
    (Progress.writing (s.framing.pieces message)).rest (.request message) clock clock s =
      let x := s.exchange s.timeout message
      (x.outcome.map some, { s with reader := x.reader, writer := x.writer }) := by
  rw [Progress.rest, Nat.sub_self, exchange, Operation.limit, Operation.rest]
  cases (s.writer.write s.timeout 0 (s.framing.pieces message)).outcome <;>
    simp only [responded, Outcome.map]

/-- What comes of a notification that has its frame to write is what comes of writing it. -/
theorem rest_notify (s : Stream) (message : String) (clock : Nat) :
    (Progress.writing (s.framing.pieces message)).rest (.notify message) clock clock s =
      let x := s.writer.write none 0 (s.framing.pieces message)
      (x.outcome.map fun _ ↦ none, { s with writer := x.writer }) := by
  rw [Progress.rest, Nat.sub_self, Operation.limit, Operation.rest]
  cases houtcome : (s.writer.write none 0 (s.framing.pieces message)).outcome <;>
    simp only [houtcome, Outcome.map]

/-- An operation on a usable transport does what an exchange comes to that has a frame to write. -/
theorem perform_eq_rest (h : s.broken = false) (op : Operation) (clock : Nat) :
    ((s.perform op).outcome, (s.perform op).transport) =
      settle (op.limit s.timeout)
        ((Progress.writing (s.framing.pieces op.message)).rest op clock clock s) := by
  cases op with
  | request message =>
    rw [perform, request_of_usable h, Operation.message, rest_request]
    simp only [settle, Operation.limit, cutOff_map, isFailure_map]
  | notify message =>
    rw [perform, notify_of_usable h, Operation.message, rest_notify]
    simp only [settle, Operation.limit, cutOff_none, isFailure_map]

end Stream

end LspClient.Transport
