import LspClient.Transport.Basic
import LspClient.Transport.Scan

/-!
# The two ends of a stream

What a stream will bring, as a list of arrivals, and what it will take. Time passes only while a
reader waits for an arrival or a writer for its turn, and bytes that are already there never have to
be waited for.

An operation may be given a time. One that is not finished within its time, as one that waits for
something that never comes, has the outcome `never`.
-/

namespace LspClient.Transport

/-! ### Reading -/

/-- What a stream brings next. -/
inductive Arrival where
  /-- Bytes. -/
  | data (bytes : List UInt8)
  /-- Nothing for so many milliseconds. -/
  | delay (ms : Nat)
  /-- An error. -/
  | fail (e : IoError)
  /-- Nothing ever again. -/
  | silence
  deriving DecidableEq, Repr

/-- The end of a stream that is read from. -/
structure Reader where
  /-- Bytes that have arrived and were not looked at. -/
  unread : List UInt8
  /-- What is still to come. After the last arrival the stream ends. -/
  arrivals : List Arrival
  deriving DecidableEq, Repr

/-- What comes of reading a message. -/
structure Reading where
  outcome : Outcome Error String
  /-- The reader afterwards. -/
  reader : Reader
  /-- The time waited so far, in milliseconds. -/
  waited : Nat
  deriving DecidableEq, Repr

/-- Whether a time lies within a limit, if there is one. -/
def inTime (limit : Option Nat) (waited : Nat) : Bool :=
  match limit with
  | none => true
  | some limit => waited ≤ limit

/-- Reads on until a scan ends, with `waited` as the time that has gone by. -/
def readOn (limit : Option Nat) (scan : Scan) (waited : Nat) (unread : List UInt8)
    (arrivals : List Arrival) : Reading :=
  match scan.feed unread with
  | .finished result rest => ⟨.ofExcept result, ⟨rest, arrivals⟩, waited⟩
  | .unfinished scan =>
    match arrivals with
    | [] => ⟨.ofExcept scan.close, ⟨[], []⟩, waited⟩
    | .data bytes :: arrivals => readOn limit scan waited bytes arrivals
    | .delay ms :: arrivals =>
      if inTime limit (waited + ms) then readOn limit scan (waited + ms) [] arrivals
      else ⟨.never, ⟨[], arrivals⟩, waited + ms⟩
    | .fail e :: arrivals =>
      match scan.failure? e with
      | some e => ⟨.failed e, ⟨[], arrivals⟩, waited⟩
      | none => readOn limit scan waited [] arrivals
    | .silence :: arrivals => ⟨.never, ⟨[], .silence :: arrivals⟩, waited⟩

/-- Reads one message. -/
def Reader.read (framing : Framing) (limit : Option Nat) (waited : Nat) (reader : Reader) :
    Reading :=
  readOn limit (.start framing) waited reader.unread reader.arrivals

/-! ### Writing -/

/-- Why a stream takes no more bytes. -/
inductive Stop where
  /-- It fails. -/
  | fail (e : IoError)
  /-- It takes none, and says so. -/
  | refuse
  /-- It never gets round to it. -/
  | block
  deriving DecidableEq, Repr

/-- The end of a stream that is written to. -/
structure Writer where
  /-- What has been written. -/
  written : List UInt8 := []
  /-- How many milliseconds the next bytes and flushes have to wait, one after another. Those after
  them do not have to wait. -/
  delays : List Nat := []
  /-- How many more bytes it takes, and what happens then; without a bound it takes all. -/
  room : Option (Nat × Stop) := none
  /-- The error of every flush. -/
  flushFault : Option IoError := none
  deriving DecidableEq, Repr

/-- What comes of writing. -/
structure Writing where
  outcome : Outcome Error Unit
  /-- The writer afterwards. -/
  writer : Writer
  /-- The time waited so far, in milliseconds. -/
  waited : Nat
  deriving DecidableEq, Repr

/-- The size from which bytes are written directly instead of being gathered with others. -/
def gatheringSize : Nat :=
  8192

/-- The error of a stream that took none of so many bytes. -/
def refusal (left : Nat) : IoError where
  kind := .writeZero
  text := if gatheringSize ≤ left then "write zero" else "failed to write the buffered data"

/-- What it means for the writing of a piece that the stream stopped with so many bytes left. -/
def Stop.outcome (stop : Stop) (left : Nat) : Outcome Error Unit :=
  match stop with
  | .fail e => .failed (.io e)
  | .refuse => .failed (.io (refusal left))
  | .block => .never

/-- Takes bytes, or as many of them as there is room for. Behind them their piece has so many
more. -/
def Writer.take (w : Writer) (bytes : List UInt8) (behind : Nat) : Outcome Error Unit × Writer :=
  match w.room with
  | none => (.done (), { w with written := w.written ++ bytes })
  | some (n, stop) =>
    let taken :=
      { w with written := w.written ++ bytes.take n, room := some (n - bytes.length, stop) }
    if bytes.length ≤ n then (.done (), taken)
    else (stop.outcome (bytes.length - n + behind), taken)

/-- Writes one piece, or as much of it as there is room for: byte after byte as long as there are
delays, and then at once. -/
def Writer.writePiece (limit : Option Nat) (waited : Nat) (w : Writer) : List UInt8 → Writing
  | [] => ⟨.done (), w, waited⟩
  | b :: piece =>
    match w.delays with
    | [] =>
      let (outcome, w) := w.take (b :: piece) 0
      ⟨outcome, w, waited⟩
    | ms :: delays =>
      let w := { w with delays }
      if inTime limit (waited + ms) then
        match w.take [b] piece.length with
        | (.done (), w) => writePiece limit (waited + ms) w piece
        | (outcome, w) => ⟨outcome, w, waited + ms⟩
      else ⟨.never, w, waited + ms⟩

/-- What a flush comes to. -/
def Writer.flushed (w : Writer) : Outcome Error Unit :=
  match w.flushFault with
  | none => .done ()
  | some e => .failed (.io e)

/-- Flushes what was written. -/
def Writer.flush (limit : Option Nat) (waited : Nat) (w : Writer) : Writing :=
  match w.delays with
  | [] => ⟨w.flushed, w, waited⟩
  | ms :: delays =>
    let w := { w with delays }
    if inTime limit (waited + ms) then ⟨w.flushed, w, waited + ms⟩ else ⟨.never, w, waited + ms⟩

/-- Writes pieces one after another, up to the first that cannot be written whole, and flushes. -/
def Writer.write (limit : Option Nat) (waited : Nat) (w : Writer) : List (List UInt8) → Writing
  | [] => w.flush limit waited
  | piece :: pieces =>
    let x := w.writePiece limit waited piece
    match x.outcome with
    | .done () => write limit x.waited x.writer pieces
    | _ => x

end LspClient.Transport
