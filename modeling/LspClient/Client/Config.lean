import LspClient.Message.Payload
import LspClient.Transport.Error
import LspClient.Url.Basic

/-!
# Configuration

Where the server is and how to talk to it.
-/

namespace LspClient

/-- How the ids of requests are chosen. -/
inductive IdStyle where
  /-- Random UUIDs, as strings. -/
  | uuid
  /-- Numbers that count up from one. -/
  | sequential
  deriving DecidableEq, Repr

/-- Where the server is and how to talk to it. -/
structure Config where
  host : String := "localhost"
  port : UInt16 := 9090
  /-- The path of the endpoint, for HTTP. -/
  path : String := "/"
  /-- The time for a request, in milliseconds; without one there is no limit. -/
  timeout : Option Nat := none
  idStyle : IdStyle := .uuid
  paramsStyle : ParamsStyle := .positional
  deriving DecidableEq, Repr

namespace Config

/-- The path with a slash in front. -/
def rootedPath (c : Config) : String :=
  if c.path.toList.head? = some '/' then c.path else "/" ++ c.path

/-- The host and the port, as stream transports name them. -/
def socketAddress (c : Config) : String :=
  s!"{c.host}:{Decimal.text c.port.toNat}"

/-- What names the endpoint after the scheme. -/
def endpointText (c : Config) : String :=
  s!"//{c.socketAddress}{c.rootedPath}"

/-- The URL that requests are posted to. -/
def endpoint (c : Config) : Except Transport.Error Url :=
  (Url.parse c.endpointText).mapError fun fault ↦
    .invalidEndpoint s!"http:{c.endpointText}" fault.message

end Config

end LspClient
