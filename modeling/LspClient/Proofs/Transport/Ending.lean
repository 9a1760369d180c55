import LspClient.Proofs.Transport.Frame
import LspClient.Proofs.Transport.Pipe

/-!
# Streams that end

What a scan makes of all the bytes of a stream that ends behind them: what comes of the reading
(`Scan.final`), and the bytes that it leaves (`Scan.left`). A reader that brings those bytes and
then ends reads just that, however they arrive (`Reader.read_final`, `Reader.brings_left`), and so
does every reading after it (`Reader.readings`).
-/

namespace LspClient.Transport

namespace Scan

/-- What comes of bytes after which the stream ends. -/
def final (scan : Scan) (bytes : List UInt8) : Except Error String :=
  match scan.feed bytes with
  | .finished result _ => result
  | .unfinished next => next.close

/-- What is left of bytes after which the stream ends. -/
def left (scan : Scan) (bytes : List UInt8) : List UInt8 :=
  match scan.feed bytes with
  | .finished _ rest => rest
  | .unfinished _ => []

/-- What comes of bytes after a step, if the stream ends after them. -/
def Step.final (step : Step) (bytes : List UInt8) : Except Error String :=
  match step with
  | .more scan => scan.final bytes
  | .ended result => result

/-- What is left of bytes after a step, if the stream ends after them. -/
def Step.left (step : Step) (bytes : List UInt8) : List UInt8 :=
  match step with
  | .more scan => scan.left bytes
  | .ended _ => bytes

section

variable {scan next : Scan} {step : Step} {bytes xs ys rest : List UInt8}
  {result : Except Error String}

/-- A scan that is not finished ends as it does when the stream ends. -/
theorem final_of_unfinished (h : scan.feed bytes = .unfinished next) :
    scan.final bytes = next.close := by
  rw [final, h]

theorem left_of_unfinished (h : scan.feed bytes = .unfinished next) : scan.left bytes = [] := by
  rw [left, h]

/-- A scan that is finished has ended, whatever comes. -/
theorem final_of_finished (h : scan.feed bytes = .finished result rest) :
    scan.final bytes = result := by
  rw [final, h]

theorem left_of_finished (h : scan.feed bytes = .finished result rest) :
    scan.left bytes = rest := by
  rw [left, h]

/-- Where a step takes the first bytes, the ending is that after the step. -/
theorem final_eq (step : Step) (h : scan.feed xs = step.feed ys) :
    scan.final xs = step.final ys := by
  rw [final, h]
  cases step <;> rfl

theorem left_eq (step : Step) (h : scan.feed xs = step.feed ys) :
    scan.left xs = step.left ys := by
  rw [left, h]
  cases step <;> rfl

/-- Where the stream ends at once, nothing is left. -/
theorem Step.left_nil (step : Step) : step.left [] = [] := by
  cases step <;> rfl

end

/-! ### Bodies -/

/-- A body takes bytes as long as more are missing. -/
theorem feed_body_short {missing : Nat} {xs : List UInt8} (h : xs.length ≤ missing)
    (taken : List UInt8) : ∃ missing' taken',
      (body missing taken).feed xs = .unfinished (.body missing' taken') := by
  induction xs generalizing missing taken with
  | nil => exact ⟨missing, taken, rfl⟩
  | cons b xs ih =>
    cases missing with
    | zero => exact absurd h (Nat.not_succ_le_zero xs.length)
    | succ missing =>
      rw [feed_cons]
      exact ih (Nat.le_of_succ_le_succ h) (b :: taken)

/-- Too few bytes behind a header are an error, whether or not so many may be announced. -/
theorem exists_final_afterHeader {length : Nat} {xs : List UInt8} (h : xs.length < length) :
    ∃ e, (afterHeader (some length)).final xs = .error e := by
  simp only [afterHeader]
  split
  case isTrue => exact ⟨_, rfl⟩
  case isFalse =>
    cases length with
    | zero => exact absurd h (Nat.not_lt_zero xs.length)
    | succ missing =>
      obtain ⟨missing', taken', hfeed⟩ := feed_body_short (Nat.le_of_lt_succ h) []
      exact ⟨_, final_of_unfinished hfeed⟩

end Scan

namespace Reader

variable {framing : Framing} {r : Reader} {bytes : List UInt8}

/-- What is read from a stream that ends. -/
theorem read_final (hbrings : r.Brings bytes []) (waited : Nat) :
    (r.read framing none waited).outcome = .ofExcept ((Scan.start framing).final bytes) := by
  cases hfeed : (Scan.start framing).feed bytes with
  | finished result rest =>
    obtain ⟨waited', r', -, hread⟩ := read_delivered hbrings hfeed waited
    rw [hread, Scan.final_of_finished hfeed]
  | unfinished next =>
    obtain ⟨waited', hread⟩ := read_ended hbrings hfeed waited
    rw [hread, Scan.final_of_unfinished hfeed]

/-- What is left for the next reading from a stream that ends. -/
theorem brings_left (hbrings : r.Brings bytes []) (waited : Nat) :
    (r.read framing none waited).reader.Brings ((Scan.start framing).left bytes) [] := by
  cases hfeed : (Scan.start framing).feed bytes with
  | finished result rest =>
    obtain ⟨waited', r', hrest, hread⟩ := read_delivered hbrings hfeed waited
    rw [hread, Scan.left_of_finished hfeed]
    exact hrest
  | unfinished next =>
    obtain ⟨waited', hread⟩ := read_ended hbrings hfeed waited
    rw [hread, Scan.left_of_unfinished hfeed]
    exact ⟨[], List.forall_mem_nil _, rfl, rfl⟩

/-- Before its end a reader brings these bytes and no others. -/
theorem Brings.unique {xs ys : List UInt8} (hxs : r.Brings xs []) (hys : r.Brings ys []) :
    xs = ys := by
  obtain ⟨early, -, hearly, rfl⟩ := hxs
  obtain ⟨early', -, hearly', rfl⟩ := hys
  rw [List.append_nil] at hearly hearly'
  rw [← hearly, hearly']

/-! ### Message after message -/

/-- What comes of reading message after message. -/
def readings (framing : Framing) : Nat → Reader → List (Outcome Error String)
  | 0, _ => []
  | count + 1, r =>
    let reading := r.read framing none 0
    reading.outcome :: reading.reader.readings framing count

/-- However frames arrive, the messages in them are read one after another, and then the stream is
closed. -/
theorem readings_frames {messages : List String} (hmessages : ∀ m ∈ messages, framing.Suits m)
    {r : Reader} (hbrings : r.Brings (messages.flatMap framing.frame) []) :
    r.readings framing (messages.length + 1) = messages.map .done ++ [.failed .closed] := by
  induction messages generalizing r with
  | nil => exact congrArg (· :: []) (read_exhausted framing hbrings 0)
  | cons m messages ih =>
    obtain ⟨hm, hmessages⟩ := List.forall_mem_cons.1 hmessages
    rw [List.flatMap_cons] at hbrings
    obtain ⟨waited, r', hrest, hread⟩ :=
      read_delivered hbrings (Scan.feed_frame hm (messages.flatMap framing.frame)) 0
    rw [List.length_cons, readings, hread]
    exact congrArg (.done m :: ·) (ih hmessages hrest)

/-- Where the stream ends, the readings after the first begin with what the first leaves. -/
theorem exists_readings_succ (hbrings : r.Brings bytes []) (count : Nat) :
    ∃ r' : Reader, r'.Brings ((Scan.start framing).left bytes) [] ∧
      r.readings framing (count + 1) =
        .ofExcept ((Scan.start framing).final bytes) :: r'.readings framing count :=
  ⟨(r.read framing none 0).reader, brings_left hbrings 0, by rw [readings, read_final hbrings]⟩

/-- Readers that bring bytes of which the first message and what it leaves are the same read the
same, message after message. -/
theorem readings_congr {r' : Reader} {bytes' : List UInt8} (hbrings : r.Brings bytes [])
    (hbrings' : r'.Brings bytes' [])
    (hfinal : (Scan.start framing).final bytes = (Scan.start framing).final bytes')
    (hleft : (Scan.start framing).left bytes = (Scan.start framing).left bytes') (count : Nat) :
    r.readings framing count = r'.readings framing count := by
  induction count generalizing r r' bytes bytes' with
  | zero => rfl
  | succ count ih =>
    obtain ⟨next, hnext, hreadings⟩ := @exists_readings_succ framing r bytes hbrings count
    obtain ⟨next', hnext', hreadings'⟩ := @exists_readings_succ framing r' bytes' hbrings' count
    -- the bytes that are left are the same, so that the next reading meets the same
    rw [hreadings, hreadings', hfinal, ih hnext (hleft ▸ hnext') rfl rfl]

end Reader

end LspClient.Transport
