import LspClient.Transport.Duration
import LspClient.Transport.Status

/-!
# Transport errors

What can go wrong while bytes move to and from the server, with the wording of each cause and the
two questions that callers ask of it: was the server out of reach, and did it not answer in time.
-/

namespace LspClient.Transport

/-- The kinds of input and output errors. -/
inductive IoKind where
  | notFound | permissionDenied | connectionRefused | connectionReset | hostUnreachable
  | networkUnreachable | connectionAborted | notConnected | addrInUse | addrNotAvailable
  | networkDown | brokenPipe | alreadyExists | wouldBlock | notADirectory | isADirectory
  | directoryNotEmpty | readOnlyFilesystem | staleNetworkFileHandle | invalidInput | invalidData
  | timedOut | writeZero | storageFull | notSeekable | quotaExceeded | fileTooLarge | resourceBusy
  | executableFileBusy | deadlock | crossesDevices | tooManyLinks | invalidFilename
  | argumentListTooLong | interrupted | unsupported | unexpectedEof | outOfMemory | inProgress
  | other
  deriving DecidableEq, Repr

/-- An error of input or output. -/
structure IoError where
  kind : IoKind
  text : String
  deriving DecidableEq, Repr

/-- What is known of an HTTP exchange that failed. -/
structure HttpFailure where
  /-- The server could not be reached. -/
  connect : Bool := false
  /-- The server did not answer in time. -/
  timeout : Bool := false
  deriving DecidableEq, Repr

/-- Why bytes did not make it to the server and back. -/
inductive Error where
  /-- The HTTP exchange failed. -/
  | http (failure : HttpFailure)
  /-- A status other than success, with a body that is no JSON. -/
  | status (status : Nat) (body : String)
  /-- The configured endpoint is no URL. -/
  | invalidEndpoint (endpoint reason : String)
  /-- Reading from or writing to the stream failed. -/
  | io (e : IoError)
  /-- The stream ended, or an earlier exchange on it failed part way. -/
  | closed
  /-- The stream does not hold messages. -/
  | framing (text : String)
  /-- No response within so many milliseconds. -/
  | timeout (ms : Nat)
  deriving DecidableEq, Repr

namespace Error

/-- The wording of a transport error. -/
def message : Error → String
  | http _ => "HTTP request failed"
  | status s _ => s!"Server responded with HTTP status {statusText s}"
  | invalidEndpoint endpoint reason => s!"Invalid endpoint '{endpoint}': {reason}"
  | io _ => "I/O error on stream transport"
  | closed => "Stream is closed"
  | framing text => s!"Invalid message framing: {text}"
  | timeout ms => s!"Timed out after {durationText ms} waiting for a response"

/-- Whether the server could not be reached. -/
def isConnect : Error → Bool
  | http failure => failure.connect
  | io e =>
    e.kind = .connectionRefused || e.kind = .connectionReset || e.kind = .notConnected
  | _ => false

/-- Whether the server did not answer in time. -/
def isTimeout : Error → Bool
  | http failure => failure.timeout
  | timeout _ => true
  | _ => false

end Error

end LspClient.Transport
