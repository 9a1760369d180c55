import LspClient.Transport.Stream

/-!
# Echoes

A stream to a server that sends back every byte it receives, at once and without ever ending. What
is sent to it comes back as its next message.
-/

namespace LspClient.Transport

/-- A transport over a stream to a server that sends everything back. -/
structure Echo where
  stream : Stream
  deriving DecidableEq, Repr

namespace Echo

/-- A transport on which nothing has been sent. -/
def start (framing : Framing) (timeout : Option Nat) : Echo where
  stream := { framing, timeout, reader := ⟨[], [.silence]⟩, writer := {} }

/-- The stream with a message on its way back: it arrives before the server falls silent. -/
def reflect (t : Echo) (message : String) : Stream :=
  let arrivals := t.stream.reader.arrivals.filter (· ≠ .silence)
  let reader :=
    { t.stream.reader with
      arrivals := arrivals ++ [.data (t.stream.framing.frame message), .silence] }
  { t.stream with reader }

/-- Sends a request and brings back the next message. -/
def request (t : Echo) (message : String) : Delivery Echo String :=
  let d := (t.reflect message).request message
  ⟨d.outcome, ⟨d.transport⟩, d.notes⟩

/-- Sends a notification. -/
def notify (t : Echo) (message : String) : Delivery Echo Unit :=
  let d := (t.reflect message).notify message
  ⟨d.outcome, ⟨d.transport⟩, d.notes⟩

end Echo

instance : LspClient.Transport Echo where
  request := Echo.request
  notify := Echo.notify

end LspClient.Transport
