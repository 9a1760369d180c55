import LspClient.Transport.Pipe
import Mathlib.Algebra.GroupWithZero.Nat

/-!
# What reading takes and what writing leaves

Reading a message takes bytes off the front of what is still to come and nothing else
(`Reader.read_incoming`). The message it brings is what a scan makes of the last bytes taken, so a
message always has bytes of its own (`Scan.Takes.ne_nil`). How the bytes arrive, in pieces of any
size and after any delays, makes no difference to the message nor to what is left of the bytes
(`Reader.read_delivered`).

Writing adds bytes at the end, a prefix of the pieces to be written, and all of them when it is done
(`Writer.write_written`). It waits for ever only where the stream blocks
(`Writer.stop?_of_write_eq_never`), and if there is room for all of them it takes as long as their
delays together (`Writer.write_of_room_eq_none`).
-/

namespace LspClient.Transport

/-! ### Bytes to come -/

/-- The bytes of an arrival. -/
def Arrival.bytes : Arrival → List UInt8
  | .data bytes => bytes
  | _ => []

/-- Whether an arrival is bytes or a delay, and not the end of what can be read. -/
def Arrival.isDelivery : Arrival → Bool
  | .data _ => true
  | .delay _ => true
  | _ => false

/-- The bytes that a reader has not taken: those that have arrived, and those that will. -/
def Reader.incoming (r : Reader) : List UInt8 :=
  r.unread ++ r.arrivals.flatMap Arrival.bytes

/-- A reader brings some bytes, in pieces of any size and after any delays, and what comes after
that is `later`. -/
def Reader.Brings (r : Reader) (bytes : List UInt8) (later : List Arrival) : Prop :=
  ∃ early, (∀ a ∈ early, a.isDelivery = true) ∧ r.arrivals = early ++ later ∧
    r.unread ++ early.flatMap Arrival.bytes = bytes

/-! ### Scans -/

namespace Scan

/-- What ends a scan is a prefix of the bytes that it is fed. -/
theorem exists_of_feed_eq_finished {scan : Scan} {bytes rest : List UInt8}
    {result : Except Error String} (h : scan.feed bytes = .finished result rest) :
    ∃ taken, bytes = taken ++ rest ∧ scan.feed taken = .finished result [] := by
  induction bytes generalizing scan with
  | nil => cases h
  | cons b bytes ih =>
    rw [feed] at h
    cases hb : scan.byte b with
    | more next =>
      simp only [hb] at h
      obtain ⟨taken, htaken, hfeed⟩ := ih h
      refine ⟨b :: taken, congrArg (b :: ·) htaken, ?_⟩
      simp only [feed, hb]
      exact hfeed
    | ended result' =>
      simp only [hb] at h
      injection h with hresult hrest
      subst hresult hrest
      refine ⟨[b], rfl, ?_⟩
      simp only [feed, hb]

/-- A scan makes a message of some bytes: the message is complete with the last of them, or they are
all that the stream still brings. -/
inductive Takes (scan : Scan) (message : String) (bytes : List UInt8) : List UInt8 → Prop where
  /-- The message is complete. -/
  | whole {rest : List UInt8} (h : scan.feed bytes = .finished (.ok message) []) :
      Takes scan message bytes rest
  /-- The stream ends. -/
  | last {next : Scan} (h : scan.feed bytes = .unfinished next)
      (hclose : next.close = .ok message) : Takes scan message bytes []

/-- Bytes fed earlier belong to the message too. -/
theorem Takes.append {scan next : Scan} {message : String} {xs ys rest : List UInt8}
    (hxs : scan.feed xs = .unfinished next) (h : next.Takes message ys rest) :
    scan.Takes message (xs ++ ys) rest := by
  cases h with
  | whole h =>
    refine .whole ?_
    simp only [feed_append, hxs, h]
  | last h hclose =>
    refine .last ?_ hclose
    simp only [feed_append, hxs, h]

/-- No message is made of no bytes. -/
theorem Takes.ne_nil {framing : Framing} {message : String} {bytes rest : List UInt8}
    (h : (start framing).Takes message bytes rest) : bytes ≠ [] := by
  rintro rfl
  cases h with
  | whole h => cases h
  | last h hclose =>
    cases h
    cases framing <;> cases hclose

end Scan

/-! ### Reading -/

theorem ofExcept_eq_done {ε α : Type} {x : Except ε α} {a : α} (h : Outcome.ofExcept x = .done a) :
    x = .ok a := by
  cases x with
  | ok b => injection h with h; rw [h]
  | error e => cases h

theorem ofExcept_eq_failed {ε α : Type} {x : Except ε α} {e : ε}
    (h : Outcome.ofExcept x = .failed e) : x = .error e := by
  cases x with
  | ok a => cases h
  | error e' => injection h with h; rw [h]

/-! The cases of reading on: what the scan makes of the bytes that are there, and then what arrives
next. -/

section

variable {limit : Option Nat} {scan next : Scan} {waited : Nat} {unread rest : List UInt8}
  {arrivals : List Arrival}

/-- A scan that is finished reads no further. -/
theorem readOn_of_finished {result : Except Error String}
    (h : scan.feed unread = .finished result rest) :
    readOn limit scan waited unread arrivals = ⟨.ofExcept result, ⟨rest, arrivals⟩, waited⟩ := by
  rw [readOn.eq_def]
  simp only [h]

/-- Bytes that do not end the scan are taken. -/
theorem readOn_of_unfinished (h : scan.feed unread = .unfinished next) :
    readOn limit scan waited unread arrivals = readOn limit next waited [] arrivals := by
  rw [readOn.eq_def, readOn.eq_def limit next]
  simp only [h, Scan.feed]

/-- Where nothing more arrives the stream has ended. -/
theorem readOn_end :
    readOn limit scan waited [] [] = ⟨.ofExcept scan.close, ⟨[], []⟩, waited⟩ :=
  rfl

theorem readOn_data {bytes : List UInt8} :
    readOn limit scan waited [] (.data bytes :: arrivals) =
      readOn limit scan waited bytes arrivals :=
  rfl

theorem readOn_delay {ms : Nat} (h : inTime limit (waited + ms) = true) :
    readOn limit scan waited [] (.delay ms :: arrivals) =
      readOn limit scan (waited + ms) [] arrivals :=
  if_pos h

/-- A delay beyond the limit is not waited for. -/
theorem readOn_delay_late {ms : Nat} (h : inTime limit (waited + ms) = false) :
    readOn limit scan waited [] (.delay ms :: arrivals) = ⟨.never, ⟨[], arrivals⟩, waited + ms⟩ :=
  if_neg (Bool.not_eq_true _ ▸ h)

theorem readOn_fail {fault : IoError} {e : Error} (h : scan.failure? fault = some e) :
    readOn limit scan waited [] (.fail fault :: arrivals) =
      ⟨.failed e, ⟨[], arrivals⟩, waited⟩ := by
  rw [readOn.eq_def]
  simp only [Scan.feed, h]

/-- An error that is passed over makes no difference. -/
theorem readOn_fail_retried {fault : IoError} (h : scan.failure? fault = none) :
    readOn limit scan waited [] (.fail fault :: arrivals) =
      readOn limit scan waited [] arrivals := by
  rw [readOn.eq_def]
  simp only [Scan.feed, h]

theorem readOn_silence :
    readOn limit scan waited [] (.silence :: arrivals) =
      ⟨.never, ⟨[], .silence :: arrivals⟩, waited⟩ :=
  rfl

end

/-- Reading on takes bytes off the front of what is to come, and a message it ends with is made of
them. -/
theorem readOn_incoming (limit : Option Nat) (scan : Scan) (waited : Nat) (unread : List UInt8)
    (arrivals : List Arrival) :
    ∃ taken, unread ++ arrivals.flatMap Arrival.bytes =
        taken ++ (readOn limit scan waited unread arrivals).reader.incoming ∧
      ∀ message, (readOn limit scan waited unread arrivals).outcome = .done message →
        scan.Takes message taken (readOn limit scan waited unread arrivals).reader.incoming := by
  induction arrivals generalizing scan waited unread with
  | nil =>
    rw [readOn]
    cases hfeed : scan.feed unread with
    | finished result rest =>
      obtain ⟨taken, htaken, htake⟩ := Scan.exists_of_feed_eq_finished hfeed
      refine ⟨taken, by simp [Reader.incoming, htaken], fun message h ↦ .whole ?_⟩
      rw [htake, ofExcept_eq_done h]
    | unfinished next =>
      exact ⟨unread, rfl, fun message h ↦ .last hfeed (ofExcept_eq_done h)⟩
  | cons arrival arrivals ih =>
    rw [readOn]
    cases hfeed : scan.feed unread with
    | finished result rest =>
      obtain ⟨taken, htaken, htake⟩ := Scan.exists_of_feed_eq_finished hfeed
      refine ⟨taken, by simp [Reader.incoming, htaken], fun message h ↦ .whole ?_⟩
      rw [htake, ofExcept_eq_done h]
    | unfinished next =>
      -- reading on with the bytes that follow, `unread` having been taken
      have hon : ∀ waited bytes, ∃ taken, unread ++ (bytes ++ arrivals.flatMap Arrival.bytes) =
            taken ++ (readOn limit next waited bytes arrivals).reader.incoming ∧
          ∀ message, (readOn limit next waited bytes arrivals).outcome = .done message →
            scan.Takes message taken (readOn limit next waited bytes arrivals).reader.incoming := by
        intro waited bytes
        obtain ⟨taken, htaken, htake⟩ := ih next waited bytes
        exact ⟨unread ++ taken, by rw [htaken, List.append_assoc],
          fun message h ↦ (htake message h).append hfeed⟩
      cases arrival with
      | data bytes => exact hon waited bytes
      | delay ms =>
        by_cases hms : inTime limit (waited + ms) = true
        · simp only [hms, if_true]
          exact hon (waited + ms) []
        · simp only [hms]
          refine ⟨unread, rfl, ?_⟩
          intro message h
          cases h
      | fail e =>
        cases he : next.failure? e with
        | some e' =>
          simp only [he]
          refine ⟨unread, rfl, ?_⟩
          intro message h
          cases h
        | none =>
          simp only [he]
          exact hon waited []
      | silence =>
        refine ⟨unread, rfl, ?_⟩
        intro message h
        cases h

/-- Reading a message takes bytes off the front of what is to come, and the message is made of
them. -/
theorem Reader.read_incoming (framing : Framing) (limit : Option Nat) (waited : Nat) (r : Reader) :
    ∃ taken, r.incoming = taken ++ (r.read framing limit waited).reader.incoming ∧
      ∀ message, (r.read framing limit waited).outcome = .done message →
        (Scan.start framing).Takes message taken (r.read framing limit waited).reader.incoming :=
  readOn_incoming limit (.start framing) waited r.unread r.arrivals

/-- Without a limit of time, reading on through deliveries stops where the scan ends. -/
theorem readOn_delivered {scan : Scan} {result : Except Error String} {rest : List UInt8}
    {early : List Arrival} (later : List Arrival) (hearly : ∀ a ∈ early, a.isDelivery = true)
    {unread : List UInt8}
    (h : scan.feed (unread ++ early.flatMap Arrival.bytes) = .finished result rest) (waited : Nat) :
    ∃ waited' r, r.Brings rest later ∧
      readOn none scan waited unread (early ++ later) = ⟨.ofExcept result, r, waited'⟩ := by
  induction early generalizing scan waited unread with
  | nil =>
    rw [List.flatMap_nil, List.append_nil] at h
    refine ⟨waited, ⟨rest, later⟩, ⟨[], List.forall_mem_nil _, rfl, List.append_nil rest⟩, ?_⟩
    rw [List.nil_append, readOn.eq_def]
    simp only [h]
  | cons arrival early ih =>
    rw [List.flatMap_cons, Scan.feed_append] at h
    rw [List.cons_append, readOn]
    cases hfeed : scan.feed unread with
    | finished result' rest' =>
      simp only [hfeed] at h
      injection h with hresult hrest
      subst hresult
      exact ⟨waited, ⟨rest', arrival :: early ++ later⟩,
        ⟨arrival :: early, hearly, rfl, hrest⟩, rfl⟩
    | unfinished next =>
      simp only [hfeed] at h
      have hrest : ∀ a ∈ early, a.isDelivery = true :=
        fun a ha ↦ hearly a (List.mem_cons_of_mem arrival ha)
      cases arrival with
      | data bytes => exact ih hrest h waited
      | delay ms => exact ih hrest h (waited + ms)
      | fail e => exact absurd (hearly _ List.mem_cons_self) (by simp [Arrival.isDelivery])
      | silence => exact absurd (hearly _ List.mem_cons_self) (by simp [Arrival.isDelivery])

/-- However the bytes arrive, a message that is complete in them is read, and the bytes behind it
are left. -/
theorem Reader.read_delivered {framing : Framing} {r : Reader} {bytes rest : List UInt8}
    {later : List Arrival} {result : Except Error String} (hbrings : r.Brings bytes later)
    (hfeed : (Scan.start framing).feed bytes = .finished result rest) (waited : Nat) :
    ∃ waited' r', r'.Brings rest later ∧
      r.read framing none waited = ⟨.ofExcept result, r', waited'⟩ := by
  obtain ⟨early, hearly, harrivals, rfl⟩ := hbrings
  rw [read, harrivals]
  exact readOn_delivered later hearly hfeed waited

/-- Without a limit of time, a scan that is fed all there will be and has not ended is closed. -/
theorem readOn_exhausted {scan next : Scan} {arrivals : List Arrival}
    (harrivals : ∀ a ∈ arrivals, a.isDelivery = true) {unread : List UInt8}
    (h : scan.feed (unread ++ arrivals.flatMap Arrival.bytes) = .unfinished next) (waited : Nat) :
    ∃ waited', readOn none scan waited unread arrivals =
      ⟨.ofExcept next.close, ⟨[], []⟩, waited'⟩ := by
  induction arrivals generalizing scan unread waited with
  | nil =>
    rw [List.flatMap_nil, List.append_nil] at h
    exact ⟨waited, by rw [readOn_of_unfinished h, readOn_end]⟩
  | cons arrival arrivals ih =>
    have hrest : ∀ a ∈ arrivals, a.isDelivery = true :=
      fun a ha ↦ harrivals a (List.mem_cons_of_mem arrival ha)
    rw [List.flatMap_cons, Scan.feed_append] at h
    cases hfeed : scan.feed unread with
    | finished result rest =>
      simp only [hfeed] at h
      cases h
    | unfinished mid =>
      simp only [hfeed] at h
      rw [readOn_of_unfinished hfeed]
      cases arrival with
      | data bytes =>
        rw [readOn_data]
        exact ih hrest h waited
      | delay ms =>
        rw [readOn_delay rfl]
        exact ih hrest h (waited + ms)
      | fail e => exact absurd (harrivals _ List.mem_cons_self) (by simp [Arrival.isDelivery])
      | silence => exact absurd (harrivals _ List.mem_cons_self) (by simp [Arrival.isDelivery])

/-- However the bytes arrive, a message that is not complete in them when the stream ends is what
the end of the stream makes of it. -/
theorem Reader.read_ended {framing : Framing} {r : Reader} {bytes : List UInt8} {next : Scan}
    (hbrings : r.Brings bytes []) (hfeed : (Scan.start framing).feed bytes = .unfinished next)
    (waited : Nat) : ∃ waited', r.read framing none waited =
      ⟨.ofExcept next.close, ⟨[], []⟩, waited'⟩ := by
  obtain ⟨early, hearly, harrivals, rfl⟩ := hbrings
  rw [read, harrivals, List.append_nil]
  exact readOn_exhausted hearly hfeed waited

/-- A reader that brings nothing, and meets nothing later, closes. -/
theorem Reader.read_exhausted (framing : Framing) {r : Reader} (h : r.Brings [] []) (waited : Nat) :
    (r.read framing none waited).outcome = .failed .closed := by
  obtain ⟨waited', hread⟩ := read_ended h rfl waited
  rw [hread]
  cases framing <;> rfl

/-! ### Writing -/

/-- What lies before something in time is in time. -/
theorem inTime_of_le {limit : Option Nat} {waited later : Nat} (hle : waited ≤ later)
    (h : inTime limit later = true) : inTime limit waited = true := by
  cases limit with
  | none => rfl
  | some limit => exact decide_eq_true (Nat.le_trans hle (of_decide_eq_true h))

theorem Stop.outcome_ne_done (stop : Stop) (left : Nat) : stop.outcome left ≠ .done () := by
  intro h
  cases stop <;> cases h

namespace Writer

variable {limit : Option Nat} {waited : Nat} {w w' : Writer} {piece : List UInt8}
  {pieces : List (List UInt8)}

/-! #### Taking bytes -/

/-- Bytes are taken up to where the stream stops, and all of them when it is done. -/
theorem take_written (w : Writer) (bytes : List UInt8) (behind : Nat) :
    ∃ out, (w.take bytes behind).2.written = w.written ++ out ∧ out <+: bytes ∧
      ((w.take bytes behind).1 = .done () → out = bytes) := by
  cases hroom : w.room with
  | none => exact ⟨bytes, by simp [take, hroom], List.prefix_refl bytes, fun _ ↦ rfl⟩
  | some room =>
    obtain ⟨n, stop⟩ := room
    refine ⟨bytes.take n, ?_, List.take_prefix n bytes, ?_⟩
    · simp only [take, hroom]
      split <;> rfl
    · intro hdone
      simp only [take, hroom] at hdone
      split at hdone
      case isTrue hle => exact List.take_of_length_le hle
      case isFalse => exact absurd hdone (stop.outcome_ne_done _)

/-- What the stream does when it has no room left, if it ever has none. -/
def stop? (w : Writer) : Option Stop :=
  w.room.map Prod.snd

/-- Taking bytes changes nothing about what happens when there is no room left. -/
theorem take_stop? (w : Writer) (bytes : List UInt8) (behind : Nat) :
    (w.take bytes behind).2.stop? = w.stop? := by
  cases hroom : w.room with
  | none => simp only [take, stop?, hroom]
  | some room =>
    simp only [take, stop?, hroom]
    split <;> rfl

/-- Taking bytes is not what takes time. -/
theorem take_delays (w : Writer) (bytes : List UInt8) (behind : Nat) :
    (w.take bytes behind).2.delays = w.delays := by
  cases hroom : w.room with
  | none => simp only [take, hroom]
  | some room =>
    simp only [take, hroom]
    split <;> rfl

/-- Taking bytes lasts for ever only where the stream blocks. -/
theorem stop?_of_take_eq_never {bytes : List UInt8} {behind : Nat}
    (h : (w.take bytes behind).1 = .never) : w.stop? = some .block := by
  cases hroom : w.room with
  | none =>
    simp only [take, hroom] at h
    cases h
  | some room =>
    obtain ⟨n, stop⟩ := room
    simp only [take, hroom] at h
    split at h
    case isTrue => cases h
    case isFalse =>
      cases stop with
      | fail e => cases h
      | refuse => cases h
      | block => rw [stop?, hroom]; rfl

theorem take_of_room_eq_none (h : w.room = none) (bytes : List UInt8) (behind : Nat) :
    w.take bytes behind = (.done (), { w with written := w.written ++ bytes }) := by
  simp only [take, h]

/-! #### Writing pieces -/

section

variable {b : UInt8} {ms : Nat} {delays : List Nat} {w' : Writer}

/-- A byte that has to wait and is taken in time: the rest of its piece comes after it. -/
theorem writePiece_cons_of_done (h : w.delays = ms :: delays)
    (hin : inTime limit (waited + ms) = true)
    (htake : take { w with delays } [b] piece.length = (.done (), w')) :
    w.writePiece limit waited (b :: piece) = w'.writePiece limit (waited + ms) piece := by
  simp only [writePiece, h, hin, if_true]
  rw [htake]

/-- A byte that has to wait and is not taken then is the last. -/
theorem writePiece_cons_of_stopped (h : w.delays = ms :: delays)
    (hin : inTime limit (waited + ms) = true) {outcome : Outcome Error Unit}
    (hne : outcome ≠ .done ())
    (htake : take { w with delays } [b] piece.length = (outcome, w')) :
    w.writePiece limit waited (b :: piece) = ⟨outcome, w', waited + ms⟩ := by
  simp only [writePiece, h, hin, if_true]
  rw [htake]
  cases outcome with
  | done u => exact absurd rfl hne
  | failed e => rfl
  | never => rfl

/-- A byte that has to wait too long is not taken any more. -/
theorem writePiece_cons_of_late (h : w.delays = ms :: delays)
    (hout : inTime limit (waited + ms) = false) :
    w.writePiece limit waited (b :: piece) = ⟨.never, { w with delays }, waited + ms⟩ := by
  simp only [writePiece, h, hout, Bool.false_eq_true, if_false]

/-- A flush that has to wait and is over in time. -/
theorem flush_of_delay (h : w.delays = ms :: delays) (hin : inTime limit (waited + ms) = true) :
    w.flush limit waited = ⟨w.flushed, { w with delays }, waited + ms⟩ := by
  simp only [flush, h, hin, if_true]
  rfl

/-- A flush that has to wait too long. -/
theorem flush_of_late (h : w.delays = ms :: delays) (hout : inTime limit (waited + ms) = false) :
    w.flush limit waited = ⟨.never, { w with delays }, waited + ms⟩ := by
  simp only [flush, h, hout, Bool.false_eq_true, if_false]

end

/-- A piece is written up to where the stream stops or the time is up, and whole when it is done. -/
theorem writePiece_written (limit : Option Nat) (waited : Nat) (w : Writer) (piece : List UInt8) :
    ∃ out, (w.writePiece limit waited piece).writer.written = w.written ++ out ∧ out <+: piece ∧
      ((w.writePiece limit waited piece).outcome = .done () → out = piece) := by
  fun_induction writePiece limit waited w piece with
  | case1 => exact ⟨[], (List.append_nil _).symm, List.prefix_refl [], fun _ ↦ rfl⟩
  | case2 waited w b piece hdelays outcome w' htake =>
    obtain ⟨out, hout, hprefix, hdone⟩ := w.take_written (b :: piece) 0
    rw [htake] at hout hdone
    exact ⟨out, hout, hprefix, hdone⟩
  | case3 waited w b piece ms delays hdelays w₁ hin w' htake ih =>
    -- this byte, and then those of the rest of the piece
    obtain ⟨out, hout, -, hdone⟩ := w₁.take_written [b] piece.length
    rw [htake] at hout hdone
    obtain rfl := hdone rfl
    obtain ⟨rest, hrest, hprefix, hwhole⟩ := ih
    refine ⟨b :: rest, ?_, List.cons_prefix_cons.2 ⟨rfl, hprefix⟩, ?_⟩
    · rw [hrest, hout, List.append_assoc]
      rfl
    · intro h
      rw [hwhole h]
  | case4 waited w b piece ms delays hdelays w₁ hin outcome w' hne htake =>
    obtain ⟨out, hout, hprefix, -⟩ := w₁.take_written [b] piece.length
    rw [htake] at hout
    exact ⟨out, hout, hprefix.trans (List.prefix_append [b] piece), fun h ↦ absurd h hne⟩
  | case5 => exact ⟨[], (List.append_nil _).symm, List.nil_prefix, nofun⟩

/-- After a piece that is written whole come the others. -/
theorem write_cons_of_done (h : (w.writePiece limit waited piece).outcome = .done ())
    (pieces : List (List UInt8)) :
    w.write limit waited (piece :: pieces) =
      (w.writePiece limit waited piece).writer.write limit (w.writePiece limit waited piece).waited
        pieces := by
  rw [write.eq_def]
  simp only [h]

/-- A piece that is not written whole is the last. -/
theorem write_cons_of_stopped (h : (w.writePiece limit waited piece).outcome ≠ .done ())
    (pieces : List (List UInt8)) :
    w.write limit waited (piece :: pieces) = w.writePiece limit waited piece := by
  rw [write.eq_def]
  cases houtcome : (w.writePiece limit waited piece).outcome with
  | done u => exact absurd houtcome h
  | failed e => simp only [houtcome]
  | never => simp only [houtcome]

/-- A flush writes nothing. -/
theorem flush_written (limit : Option Nat) (waited : Nat) (w : Writer) :
    (w.flush limit waited).writer.written = w.written := by
  rw [flush]
  split
  · rfl
  · dsimp only
    split <;> rfl

/-- What is written is a prefix of the pieces, and all of them when the writing is done. -/
theorem write_written (limit : Option Nat) (waited : Nat) (w : Writer)
    (pieces : List (List UInt8)) :
    ∃ out, (w.write limit waited pieces).writer.written = w.written ++ out ∧
      out <+: pieces.flatten ∧
      ((w.write limit waited pieces).outcome = .done () → out = pieces.flatten) := by
  induction pieces generalizing waited w with
  | nil =>
    refine ⟨[], ?_, List.prefix_refl [], fun _ ↦ rfl⟩
    rw [List.append_nil]
    exact flush_written limit waited w
  | cons piece pieces ih =>
    obtain ⟨out, hout, hprefix, hdone⟩ := writePiece_written limit waited w piece
    rw [List.flatten_cons]
    by_cases houtcome : (w.writePiece limit waited piece).outcome = .done ()
    · obtain ⟨out', hout', hprefix', hdone'⟩ := ih (w.writePiece limit waited piece).waited
        (w.writePiece limit waited piece).writer
      obtain rfl := hdone houtcome
      rw [write_cons_of_done houtcome]
      refine ⟨out ++ out', ?_, (List.prefix_append_right_inj out).2 hprefix', ?_⟩
      · rw [hout', hout, List.append_assoc]
      · intro h
        rw [hdone' h]
    · rw [write_cons_of_stopped houtcome]
      exact ⟨out, hout, hprefix.trans (List.prefix_append piece _), fun h ↦ absurd h houtcome⟩

/-! #### Writing that waits -/

/-- Writing a piece changes nothing about what happens when there is no room left. -/
theorem writePiece_stop? (limit : Option Nat) (waited : Nat) (w : Writer) (piece : List UInt8) :
    (w.writePiece limit waited piece).writer.stop? = w.stop? := by
  fun_induction writePiece limit waited w piece with
  | case1 => rfl
  | case2 waited w b piece hdelays outcome w' htake =>
    have hstop := w.take_stop? (b :: piece) 0
    rwa [htake] at hstop
  | case3 waited w b piece ms delays hdelays w₁ hin w' htake ih =>
    have hstop := w₁.take_stop? [b] piece.length
    rw [htake] at hstop
    exact ih.trans hstop
  | case4 waited w b piece ms delays hdelays w₁ hin outcome w' hne htake =>
    have hstop := w₁.take_stop? [b] piece.length
    rwa [htake] at hstop
  | case5 => rfl

/-- Without a limit of time, writing a piece lasts for ever only where the stream blocks. -/
theorem stop?_of_writePiece_eq_never (h : (w.writePiece none waited piece).outcome = .never) :
    w.stop? = some .block := by
  fun_induction writePiece none waited w piece with
  | case1 => cases h
  | case2 waited w b piece hdelays outcome w' htake =>
    exact stop?_of_take_eq_never (by rw [htake]; exact h)
  | case3 waited w b piece ms delays hdelays w₁ hin w' htake ih =>
    have hstop := w₁.take_stop? [b] piece.length
    rw [htake] at hstop
    exact hstop.symm.trans (ih h)
  | case4 waited w b piece ms delays hdelays w₁ hin outcome w' hne htake =>
    exact @stop?_of_take_eq_never w₁ [b] piece.length (by rw [htake]; exact h)
  | case5 _ _ _ _ _ _ _ _ hout => exact absurd rfl hout

/-- A flush that has as long as it takes is over. -/
theorem flush_none_ne_never (waited : Nat) (w : Writer) :
    (w.flush none waited).outcome ≠ .never := by
  have hflushed : w.flushed ≠ .never := by
    rw [flushed]
    split <;> exact nofun
  rw [flush]
  split
  · exact hflushed
  · exact hflushed

/-- Without a limit of time, writing lasts for ever only where the stream blocks. -/
theorem stop?_of_write_eq_never (h : (w.write none waited pieces).outcome = .never) :
    w.stop? = some .block := by
  induction pieces generalizing waited w with
  | nil => exact absurd h (flush_none_ne_never waited w)
  | cons piece pieces ih =>
    by_cases hdone : (w.writePiece none waited piece).outcome = .done ()
    · rw [write_cons_of_done hdone] at h
      exact (writePiece_stop? none waited w piece).symm.trans (ih h)
    · rw [write_cons_of_stopped hdone] at h
      exact stop?_of_writePiece_eq_never h

/-- How long the next bytes and flushes, so many of them, have to wait. -/
def delay (w : Writer) (n : Nat) : Nat :=
  (w.delays.take n).sum

theorem delay_of_delays_eq_nil (h : w.delays = []) (n : Nat) : w.delay n = 0 := by
  rw [delay, h, List.take_nil, List.sum_nil]

/-- The delays of some bytes, and those that are left, are all delays. -/
theorem delay_add_sum_drop (w : Writer) (n : Nat) :
    w.delay n + (w.delays.drop n).sum = w.delays.sum := by
  rw [delay, ← List.sum_append, List.take_append_drop]

/-- The delays of some bytes, and then those of more. -/
theorem delay_add (w : Writer) (m n : Nat) :
    w.delay (m + n) = w.delay m + delay { w with delays := w.delays.drop m } n := by
  rw [delay, delay, delay, List.take_add, List.sum_append]

/-- A piece is written whole where there is room and its bytes do not have to wait too long. -/
theorem writePiece_of_room_eq_none (h : w.room = none)
    (hin : inTime limit (waited + w.delay piece.length) = true) :
    w.writePiece limit waited piece =
      ⟨.done (),
        { w with written := w.written ++ piece, delays := w.delays.drop piece.length },
        waited + w.delay piece.length⟩ := by
  induction piece generalizing waited w with
  | nil => rw [writePiece, List.append_nil]; rfl
  | cons b piece ih =>
    rw [writePiece]
    cases hdelays : w.delays with
    | nil =>
      simp only [take_of_room_eq_none h, delay_of_delays_eq_nil hdelays, List.drop_nil,
        Nat.add_zero, hdelays]
    | cons ms delays =>
      have hdelay : w.delay (piece.length + 1) = ms + delay { w with delays } piece.length := by
        rw [delay, delay, hdelays, List.take_succ_cons, List.sum_cons]
      rw [List.length_cons, hdelay, ← Nat.add_assoc] at hin
      have hms : inTime limit (waited + ms) = true := inTime_of_le (Nat.le_add_right _ _) hin
      have hnext := @ih (waited + ms) { w with written := w.written ++ [b], delays } h hin
      simp only [hms, if_true, take_of_room_eq_none (w := { w with delays }) h, hnext,
        List.length_cons, hdelay, List.drop_succ_cons, List.append_assoc, List.singleton_append,
        Nat.add_assoc]
      rfl

/-- Pieces are written whole where there is room and their bytes and the flush do not have to wait
too long; only the flush may fail. -/
theorem write_of_room_eq_none (h : w.room = none)
    (hin : inTime limit (waited + w.delay (pieces.flatten.length + 1)) = true) :
    w.write limit waited pieces =
      ⟨w.flushed,
        { w with
          written := w.written ++ pieces.flatten
          delays := w.delays.drop (pieces.flatten.length + 1) },
        waited + w.delay (pieces.flatten.length + 1)⟩ := by
  induction pieces generalizing waited w with
  | nil =>
    rw [write, flush]
    cases hdelays : w.delays with
    | nil =>
      simp only [delay_of_delays_eq_nil hdelays, List.flatten_nil, List.append_nil, List.drop_nil,
        Nat.add_zero]
      rw [← hdelays]
    | cons ms delays =>
      have hdelay : w.delay 1 = ms := by
        rw [delay, hdelays, List.take_succ_cons, List.take_zero, List.sum_singleton]
      rw [List.flatten_nil, List.length_nil, Nat.zero_add, hdelay] at hin
      simp only [hin, if_true, hdelay, List.flatten_nil, List.append_nil, List.length_nil,
        Nat.zero_add, List.drop_succ_cons, List.drop_zero]
      rfl
  | cons piece pieces ih =>
    -- the piece first, and then the rest with the delays behind those of the piece
    have hdelay : w.delay ((piece ++ pieces.flatten).length + 1) = w.delay piece.length +
        delay { w with delays := w.delays.drop piece.length } (pieces.flatten.length + 1) := by
      rw [List.length_append, Nat.add_assoc, delay_add]
    rw [List.flatten_cons, hdelay, ← Nat.add_assoc] at hin
    have hpiece : w.writePiece limit waited piece = _ :=
      writePiece_of_room_eq_none h (inTime_of_le (Nat.le_add_right _ _) hin)
    have hdone : (w.writePiece limit waited piece).outcome = .done () := by rw [hpiece]
    have hnext := @ih (waited + w.delay piece.length)
      { w with written := w.written ++ piece, delays := w.delays.drop piece.length } h hin
    rw [write_cons_of_done hdone, hpiece, hnext, List.flatten_cons, hdelay]
    simp only [List.append_assoc, List.drop_drop, List.length_append, Nat.add_assoc]
    rfl

/-- A stream that has room for everything and does not fail takes what is written, however long that
takes. -/
theorem write_none_eq_done (hroom : w.room = none) (hflush : w.flushFault = none) (waited : Nat)
    (pieces : List (List UInt8)) : (w.write none waited pieces).outcome = .done () := by
  rw [write_of_room_eq_none hroom rfl, flushed, hflush]

end Writer

end LspClient.Transport
