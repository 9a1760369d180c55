import LspClient.Proofs.Transport.Exchange

/-!
# Runs of a stream transport

A run performs operations one after another on what each leaves of the transport. It stops where an
operation never returns, for nothing is performed after that.

What a run looks like (`run_eq_succeeded_append`) rests on the mark that an operation leaves:

* an operation on a transport that is not broken marks it exactly if it fails
  (`perform_broken`), whichever way it fails;
* an operation on a broken transport is refused, and leaves all of it as it is
  (`perform_of_broken`).

So a run succeeds until its first failure, and everything after that is refused. The failures are
those of a stream: none is of the network (`perform_error`).
-/

namespace LspClient.Transport

/-! ### The failures of a stream -/

/-- Whether an error is one that reading off a stream fails with. -/
def Error.isOfReading : Error → Bool
  | .io _ | .closed | .framing _ => true
  | _ => false

/-- Whether an error is one that a stream transport fails with. -/
def Error.isOfStream : Error → Bool
  | .io _ | .closed | .framing _ | .timeout _ => true
  | _ => false

/-- What can go wrong with reading can go wrong with a stream. -/
theorem Error.isOfStream_of_isOfReading {e : Error} (h : e.isOfReading = true) :
    e.isOfStream = true := by
  cases e with
  | io _ | closed | framing _ => rfl
  | http _ | status _ _ | invalidEndpoint _ _ | timeout _ => cases h

namespace Scan

variable {scan : Scan} {length : Option Nat} {taken rest bytes : List UInt8} {e : Error}

theorem lineText_error (h : lineText taken = .error e) : e.isOfReading = true := by
  rw [lineText] at h
  cases hdecode : Utf8.decode taken.reverse with
  | ok s => rw [hdecode] at h; cases h
  | error fault => rw [hdecode] at h; cases h; rfl

theorem lineMessage_error (h : lineMessage taken = .error e) : e.isOfReading = true := by
  rw [lineMessage] at h
  cases htext : lineText taken with
  | ok s => rw [htext] at h; cases h
  | error e' => rw [htext] at h; cases h; exact lineText_error htext

theorem bodyMessage_error (h : bodyMessage taken = .error e) : e.isOfReading = true := by
  rw [bodyMessage] at h
  split at h
  · cases h
  · cases h; rfl

/-- A header that gives no length goes wrong as reading does. -/
theorem headerLength_error {s : List Char} (h : headerLength length s = .error e) :
    e.isOfReading = true := by
  rw [headerLength] at h
  split at h
  · cases h; rfl
  · split at h
    · split at h
      · cases h
      · cases h; rfl
    · cases h

theorem afterHeader_error (h : afterHeader length = .ended (.error e)) : e.isOfReading = true := by
  rw [afterHeader.eq_def] at h
  split at h
  · cases h; rfl
  · split at h
    · cases h; rfl
    · split at h
      · injection h with h; exact bodyMessage_error h
      · cases h

/-- So does a line of a header that ends the reading. -/
theorem headerLine_error (h : headerLine length taken = .ended (.error e)) :
    e.isOfReading = true := by
  rw [headerLine] at h
  split at h
  · cases h; exact lineText_error ‹_›
  · split at h
    · exact afterHeader_error h
    · split at h
      · cases h
      · cases h; exact headerLength_error ‹_›

/-- A byte that ends a scan with an error ends it with one of reading. -/
theorem byte_error {b : UInt8} (h : scan.byte b = .ended (.error e)) : e.isOfReading = true := by
  cases scan with
  | line taken =>
    rw [byte] at h
    split at h
    · split at h
      · cases h
      · cases h
      · cases h; exact lineMessage_error ‹_›
    · cases h
  | header length taken =>
    rw [byte] at h
    split at h
    · exact headerLine_error h
    · cases h
  | body missing taken =>
    cases missing with
    | zero => injection h with h; exact bodyMessage_error h
    | succ missing => cases h

/-- So does feeding bytes to a scan. -/
theorem feed_error (h : scan.feed bytes = .finished (.error e) rest) : e.isOfReading = true := by
  induction bytes generalizing scan with
  | nil => cases h
  | cons b bytes ih =>
    rw [feed] at h
    cases hbyte : scan.byte b with
    | more next => rw [hbyte] at h; exact ih h
    | ended result =>
      rw [hbyte] at h
      injection h with hresult
      exact byte_error (hresult ▸ hbyte)

/-- So does a scan whose stream ends. -/
theorem close_error (h : scan.close = .error e) : e.isOfReading = true := by
  rw [close.eq_def] at h
  split at h
  · cases h; rfl
  · split at h
    · cases h
    · cases h; rfl
    · cases h; exact lineMessage_error ‹_›
  · cases h; rfl
  · split at h
    · subst h; exact headerLine_error ‹_›
    · cases h; rfl
  · cases h; rfl

theorem failure?_error {fault : IoError} (h : scan.failure? fault = some e) :
    e.isOfReading = true := by
  rw [failure?.eq_def] at h
  split at h
  · cases h
  · cases scan with
    | line taken => cases h; rfl
    | header length taken => cases h; rfl
    | body missing taken =>
      injection h with h
      subst h
      split <;> rfl

end Scan

/-- What reading on fails with is an error of reading. -/
theorem readOn_error {limit : Option Nat} {scan : Scan} {waited : Nat} {unread : List UInt8}
    {arrivals : List Arrival} {e : Error}
    (h : (readOn limit scan waited unread arrivals).outcome = .failed e) :
    e.isOfReading = true := by
  induction arrivals generalizing scan waited unread with
  | nil =>
    rw [readOn] at h
    cases hfeed : scan.feed unread with
    | finished result rest =>
      simp only [hfeed] at h
      exact Scan.feed_error (ofExcept_eq_failed h ▸ hfeed)
    | unfinished next =>
      simp only [hfeed] at h
      exact Scan.close_error (ofExcept_eq_failed h)
  | cons arrival arrivals ih =>
    rw [readOn] at h
    cases hfeed : scan.feed unread with
    | finished result rest =>
      simp only [hfeed] at h
      exact Scan.feed_error (ofExcept_eq_failed h ▸ hfeed)
    | unfinished next =>
      simp only [hfeed] at h
      cases arrival with
      | data bytes => exact ih h
      | delay ms =>
        simp only at h
        split at h
        · exact ih h
        · cases h
      | fail fault =>
        simp only at h
        split at h
        · rename_i e' hfailure
          injection h with h
          exact Scan.failure?_error (h ▸ hfailure)
        · exact ih h
      | silence => cases h

/-- A stream that takes no more bytes goes wrong as a stream does. -/
theorem Stop.outcome_error {stop : Stop} {left : Nat} {e : Error}
    (h : stop.outcome left = .failed e) : e.isOfStream = true := by
  cases stop with
  | fail fault => cases h; rfl
  | refuse => cases h; rfl
  | block => cases h

namespace Writer

variable {limit : Option Nat} {waited : Nat} {w : Writer} {e : Error}

/-- What taking bytes fails with is an error of a stream. -/
theorem take_error {bytes : List UInt8} {behind : Nat} (h : (w.take bytes behind).1 = .failed e) :
    e.isOfStream = true := by
  rw [take] at h
  split at h
  · cases h
  · dsimp only at h
    split at h
    · cases h
    · exact Stop.outcome_error h

/-- What writing a piece fails with is an error of a stream. -/
theorem writePiece_error {piece : List UInt8}
    (h : (w.writePiece limit waited piece).outcome = .failed e) : e.isOfStream = true := by
  fun_induction writePiece limit waited w piece with
  | case1 => cases h
  | case2 waited w b piece hdelays outcome w' htake =>
    exact @take_error w e (b :: piece) 0 (by rw [htake]; exact h)
  | case3 waited w b piece ms delays hdelays w₁ hin w' htake ih => exact ih h
  | case4 waited w b piece ms delays hdelays w₁ hin outcome w' hne htake =>
    exact @take_error w₁ e [b] piece.length (by rw [htake]; exact h)
  | case5 => cases h

theorem flush_error (h : (w.flush limit waited).outcome = .failed e) : e.isOfStream = true := by
  have hflushed : w.flushed = .failed e → e.isOfStream = true := by
    intro h
    rw [flushed] at h
    split at h
    · cases h
    · cases h; rfl
  rw [flush] at h
  split at h
  · exact hflushed h
  · dsimp only at h
    split at h
    · exact hflushed h
    · cases h

/-- What writing fails with is an error of a stream. -/
theorem write_error {pieces : List (List UInt8)}
    (h : (w.write limit waited pieces).outcome = .failed e) : e.isOfStream = true := by
  induction pieces generalizing waited w with
  | nil => exact flush_error h
  | cons piece pieces ih =>
    by_cases hdone : (w.writePiece limit waited piece).outcome = .done ()
    · rw [write_cons_of_done hdone] at h
      exact ih h
    · rw [write_cons_of_stopped hdone] at h
      exact writePiece_error h

end Writer

namespace Stream

variable {s : Stream}

/-- Waiting for a response goes wrong as a stream does. -/
theorem awaitResponse_error {framing : Framing} {limit : Option Nat} {attempts waited : Nat}
    {r : Reader} {e : Error}
    (h : (awaitResponse framing limit attempts waited r).reading.outcome = .failed e) :
    e.isOfStream = true := by
  induction attempts generalizing waited r with
  | zero => injection h with h; subst h; rfl
  | succ attempts ih =>
    rw [awaitResponse] at h
    split at h
    · split at h
      · exact ih h
      · exact Error.isOfStream_of_isOfReading (readOn_error h)
    · exact Error.isOfStream_of_isOfReading (readOn_error h)

theorem map_eq_failed {α β : Type} {f : α → β} {outcome : Outcome Error α} {e : Error}
    (h : outcome.map f = .failed e) : outcome = .failed e := by
  cases outcome with
  | failed e' => injection h with h; rw [h]
  | done a => cases h
  | never => cases h

/-- An exchange goes wrong as a stream does. -/
theorem exchange_error {limit : Option Nat} {message : String} {e : Error}
    (h : (s.exchange limit message).outcome = .failed e) : e.isOfStream = true := by
  by_cases hdone : (s.writer.write limit 0 (s.framing.pieces message)).outcome = .done ()
  · rw [exchange_of_done hdone] at h
    exact awaitResponse_error h
  · rw [exchange_of_stopped hdone] at h
    exact Writer.write_error (map_eq_failed h)

/-- What is cut off has failed before, or fails with the timeout. -/
theorem cutOff_error {α : Type} {timeout : Option Nat} {outcome : Outcome Error α} {e : Error}
    (h : cutOff timeout outcome = .failed e) : outcome = .failed e ∨ e.isOfStream = true := by
  cases outcome with
  | done a => exact .inl h
  | failed e' => exact .inl h
  | never =>
    cases timeout with
    | none => cases h
    | some ms => injection h with h; subst h; exact .inr rfl

/-! ### Operations -/

/-- What an operation fails with is an error of a stream. -/
theorem perform_error {op : Operation} {e : Error} (h : (s.perform op).outcome = .failed e) :
    e.isOfStream = true := by
  cases hbroken : s.broken with
  | true =>
    rw [perform_of_broken hbroken] at h
    injection h with h
    subst h
    rfl
  | false =>
    cases op with
    | request message =>
      rw [perform, request_of_usable hbroken] at h
      rcases cutOff_error (map_eq_failed h) with hexchange | hstream
      · exact exchange_error hexchange
      · exact hstream
    | notify message =>
      rw [perform, notify_of_usable hbroken] at h
      exact Writer.write_error (map_eq_failed h)

/-! ### Runs -/

/-- One operation of a run, with the transport before and after it. -/
structure Turn where
  before : Stream
  operation : Operation
  outcome : Outcome Error (Option String)
  after : Stream

/-- Performs operations, each on what the one before it leaves, up to one that never returns. -/
def run (s : Stream) : List Operation → List Turn
  | [] => []
  | op :: ops =>
    let d := s.perform op
    ⟨s, op, d.outcome, d.transport⟩ ::
      match d.outcome with
      | .never => []
      | _ => run d.transport ops

/-- The operation succeeds on a transport that is usable and stays so. -/
structure Turn.Succeeds (t : Turn) : Prop where
  outcome : ∃ response, t.outcome = .done response
  before : t.before.broken = false
  after : t.after.broken = false

/-- The operation fails, and leaves the transport broken. -/
structure Turn.Fails (t : Turn) : Prop where
  outcome : ∃ e, t.outcome = .failed e ∧ e.isOfStream = true
  after : t.after.broken = true

/-- The operation is refused: no byte is written and none is read, and nothing else of the transport
changes either. -/
structure Turn.IsRefusal (s : Stream) (t : Turn) : Prop where
  outcome : t.outcome = .failed .closed
  before : t.before = s
  after : t.after = s

/-- An operation that fails leaves the transport broken. -/
theorem perform_fails {op : Operation} {e : Error} (h : (s.perform op).outcome = .failed e) :
    Turn.Fails ⟨s, op, (s.perform op).outcome, (s.perform op).transport⟩ where
  outcome := ⟨e, h, perform_error h⟩
  after := by
    cases hbroken : s.broken with
    | true => rw [perform_of_broken hbroken]; exact hbroken
    | false => rw [perform_broken hbroken, h]; rfl

/-- Everything that is asked of a broken transport is refused. -/
theorem run_of_broken (h : s.broken = true) (ops : List Operation) :
    s.run ops = ops.map fun op ↦ ⟨s, op, .failed .closed, s⟩ := by
  induction ops with
  | nil => rfl
  | cons op ops ih =>
    rw [run, perform_of_broken h]
    exact congrArg (_ :: ·) ih

/-- A run succeeds up to its first failure, and all that follows the failure is refused. It performs
all of its operations, unless one of them, before any failure, never returns. -/
theorem run_eq_succeeded_append (s : Stream) (ops : List Operation) :
    ∃ succeeded rest, s.run ops = succeeded ++ rest ∧ (∀ t ∈ succeeded, t.Succeeds) ∧
      ((rest = [] ∧ succeeded.map Turn.operation = ops) ∨
        (∃ first refused, rest = first :: refused ∧ first.Fails ∧
          (∀ t ∈ refused, t.IsRefusal first.after) ∧ (s.run ops).map Turn.operation = ops) ∨
        ∃ last, rest = [last] ∧ last.outcome = .never ∧ last.before.broken = false) := by
  induction ops generalizing s with
  | nil => exact ⟨[], [], rfl, List.forall_mem_nil _, .inl ⟨rfl, rfl⟩⟩
  | cons op ops ih =>
    rw [run]
    cases houtcome : (s.perform op).outcome with
    | failed e =>
      -- the first failure: everything that follows is refused
      have hfails := perform_fails houtcome
      rw [houtcome] at hfails
      refine ⟨[], _, rfl, List.forall_mem_nil _, .inr (.inl ⟨_, _, rfl, hfails, ?_, ?_⟩)⟩
      · simp only [run_of_broken hfails.after]
        intro t ht
        obtain ⟨op', -, rfl⟩ := List.mem_map.1 ht
        exact ⟨rfl, rfl, rfl⟩
      · simp only [run_of_broken hfails.after, List.map_cons, List.map_map]
        exact congrArg (op :: ·) (List.map_id ops)
    | never =>
      have hne : (s.perform op).outcome ≠ .failed .closed := by
        rw [houtcome]
        simp
      exact ⟨[], _, rfl, List.forall_mem_nil _, .inr (.inr ⟨_, rfl, rfl, broken_of_perform hne⟩)⟩
    | done response =>
      have hne : (s.perform op).outcome ≠ .failed .closed := by
        rw [houtcome]
        simp
      have hbefore : s.broken = false := broken_of_perform hne
      have hafter : (s.perform op).transport.broken = false := by
        rw [perform_broken hbefore, houtcome]
        rfl
      -- one more success in front of those of the rest
      obtain ⟨succeeded, rest, hrun, hsucceeded, hrest⟩ := ih (s.perform op).transport
      refine ⟨⟨s, op, .done response, (s.perform op).transport⟩ :: succeeded, rest,
        congrArg (_ :: ·) hrun, ?_, ?_⟩
      · intro t ht
        rcases List.mem_cons.1 ht with rfl | ht
        · exact ⟨⟨response, rfl⟩, hbefore, hafter⟩
        · exact hsucceeded t ht
      · rcases hrest with ⟨hnil, hops⟩ | ⟨first, refused, hfirst, hfails, hrefused, hops⟩ | hnever
        · exact .inl ⟨hnil, congrArg (op :: ·) hops⟩
        · exact .inr (.inl ⟨first, refused, hfirst, hfails, hrefused, congrArg (op :: ·) hops⟩)
        · exact .inr (.inr hnever)

end Stream

end LspClient.Transport
