import LspClient.Message.Response
import LspClient.Transport.Pipe

/-!
# Stream transports

A transport over two streams, one for each direction. An exchange writes a frame and reads messages
until one is not on the server's own initiative. There is one exchange at a time, and once one has
failed part way the streams may be in the middle of a message: the transport is then broken, and
refuses everything.

A request may be given a time. If the exchange is not finished by then it is cut off, which is a
failure like any other.
-/

namespace LspClient.Transport

/-- How many messages of the server's own are skipped in one exchange before it is given up. -/
def greatestSkip : Nat :=
  1000

/-- A transport over two streams. -/
structure Stream where
  framing : Framing
  /-- The time for an exchange, in milliseconds. -/
  timeout : Option Nat := none
  reader : Reader
  writer : Writer
  /-- An exchange failed part way. -/
  broken : Bool := false
  deriving DecidableEq, Repr

namespace Stream

/-- A transport as a message shows it. -/
def shown (framing : Framing) (timeout : Option Nat) : String :=
  let time :=
    match timeout with
    | none => "None"
    | some ms => s!"Some({durationText ms})"
  s!"StreamTransport \x7b framing: {framing.shown}, timeout: {time} \x7d"

/-- What comes of waiting for a response. -/
structure Waiting where
  reading : Reading
  /-- The server's own messages that were skipped. -/
  skipped : List String

/-- The error of an exchange in which only messages of the server's own arrived. -/
def onlyServerMessages : Error :=
  .framing s!"no response after skipping {Decimal.text greatestSkip} server messages"

/-- Reads messages, at most `attempts`, until one is not on the server's own initiative. -/
def awaitResponse (framing : Framing) (limit : Option Nat) :
    (attempts : Nat) → (waited : Nat) → Reader → Waiting
  | 0, waited, reader => ⟨⟨.failed onlyServerMessages, reader, waited⟩, []⟩
  | attempts + 1, waited, reader =>
    let reading := reader.read framing limit waited
    match reading.outcome with
    | .done message =>
      if isServerMessage message then
        let later := awaitResponse framing limit attempts reading.waited reading.reader
        { later with skipped := message :: later.skipped }
      else ⟨reading, []⟩
    | _ => ⟨reading, []⟩

/-- What comes of an exchange. -/
structure Exchange where
  outcome : Outcome Error String
  reader : Reader
  writer : Writer
  /-- The time it took, in milliseconds. -/
  waited : Nat
  skipped : List String

/-- Writes a message and waits for the response. The time that the writing takes is time of the
exchange. -/
def exchange (limit : Option Nat) (s : Stream) (message : String) : Exchange :=
  let x := s.writer.write limit 0 (s.framing.pieces message)
  match x.outcome with
  | .done () =>
    let ⟨reading, skipped⟩ := awaitResponse s.framing limit greatestSkip x.waited s.reader
    ⟨reading.outcome, reading.reader, x.writer, reading.waited, skipped⟩
  | .failed e => ⟨.failed e, s.reader, x.writer, x.waited, []⟩
  | .never => ⟨.never, s.reader, x.writer, x.waited, []⟩

/-- The note of a failure that leaves a transport broken. -/
def brokenNote : Note :=
  ⟨.warn, "Stream transport is unusable after a failed exchange"⟩

/-- The note of a message of the server's own: the message itself. -/
def skippedNote (message : String) : Note :=
  ⟨.debug, message⟩

/-- An exchange that is not finished in its time is cut off. -/
def cutOff {α : Type} (timeout : Option Nat) : Outcome Error α → Outcome Error α
  | .never =>
    match timeout with
    | some ms => .failed (.timeout ms)
    | none => .never
  | outcome => outcome

/-- Whether an operation has failed. -/
def isFailure {α : Type} : Outcome Error α → Bool
  | .failed _ => true
  | _ => false

/-- The notes that an outcome calls for. -/
def outcomeNotes {α : Type} (outcome : Outcome Error α) : List Note :=
  if isFailure outcome then [brokenNote] else []

/-- Sends a request and brings back the response. -/
def request (s : Stream) (message : String) : Delivery Stream String :=
  if s.broken then ⟨.failed .closed, s, []⟩
  else
    let x := s.exchange s.timeout message
    let outcome := cutOff s.timeout x.outcome
    { outcome
      transport := { s with reader := x.reader, writer := x.writer, broken := isFailure outcome }
      notes := x.skipped.map skippedNote ++ outcomeNotes outcome }

/-- Sends a notification. However long that takes, it is not cut off. -/
def notify (s : Stream) (message : String) : Delivery Stream Unit :=
  if s.broken then ⟨.failed .closed, s, []⟩
  else
    let x := s.writer.write none 0 (s.framing.pieces message)
    { outcome := x.outcome
      transport := { s with writer := x.writer, broken := isFailure x.outcome }
      notes := outcomeNotes x.outcome }

end Stream

instance : LspClient.Transport Stream where
  request := Stream.request
  notify := Stream.notify

end LspClient.Transport
