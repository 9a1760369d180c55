import LspClient.Text.Utf8
import LspClient.Transport.Duration

/-!
# Framing

How messages are marked off from each other in a stream of bytes: by the ends of lines, or by a
header that says how many bytes follow. A frame is written in two pieces, and what is written for a
message depends on nothing but the message.
-/

namespace LspClient.Transport

/-- How the boundaries of messages are marked. -/
inductive Framing where
  /-- One message in each line. -/
  | lines
  /-- A header with the length of the message, a blank line, and the message. -/
  | contentLength
  deriving DecidableEq, Repr

namespace Framing

/-- The name of a framing as a message shows it. -/
def shown : Framing → String
  | lines => "Lines"
  | contentLength => "ContentLength"

/-- The header in front of a message of so many bytes. -/
def header (length : Nat) : String :=
  s!"Content-Length: {Decimal.text length}\r\n\r\n"

/-- The pieces of a frame, in the order in which they are written. -/
def pieces (framing : Framing) (message : String) : List (List UInt8) :=
  match framing with
  | lines => [Utf8.bytes message, Utf8.bytes "\n"]
  | contentLength => [Utf8.bytes (header message.utf8ByteSize), Utf8.bytes message]

/-- A frame: the bytes that carry a message. -/
def frame (framing : Framing) (message : String) : List UInt8 :=
  (framing.pieces message).flatten

end Framing

end LspClient.Transport
