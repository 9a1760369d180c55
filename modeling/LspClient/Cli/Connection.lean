import LspClient.Cli.Parser
import LspClient.Client.Basic
import LspClient.Transport.Echo
import LspClient.Transport.Http
import LspClient.Transport.Stream

/-!
# Connections

Which transport a command line asks for, and what comes of setting it up. A server to start goes
before an address to connect to, and that before HTTP, which is set up without touching the network.

What there is at the other end is given from outside.
-/

namespace LspClient.Cli

open Transport (Framing Http HttpPeer IoError Stream Echo)

/-- A stream that was opened: its two ends, or one to a server that sends everything back. -/
inductive Peer where
  | ends (reader : Transport.Reader) (writer : Transport.Writer)
  | echo
  deriving DecidableEq, Repr

/-- What a run meets outside. -/
structure Surroundings where
  /-- What there is at an endpoint. -/
  post : Url → HttpPeer
  /-- What comes of connecting to an address. -/
  connect : String → Except IoError Peer
  /-- What comes of starting a program with arguments. -/
  start : String → List String → Except IoError Peer

/-- A transport that was set up. -/
inductive Connection where
  | http (t : Http)
  | stream (t : Stream)
  | echo (t : Echo)
  deriving DecidableEq, Repr

namespace Connection

/-- A delivery over one transport as one over the connection. -/
def wrap {σ α : Type} (as : σ → Connection) (d : Delivery σ α) : Delivery Connection α :=
  ⟨d.outcome, as d.transport, d.notes⟩

/-- Sends a request and brings back the response. -/
def request (c : Connection) (message : String) : Delivery Connection String :=
  match c with
  | http t => wrap http (t.request message)
  | stream t => wrap stream (t.request message)
  | echo t => wrap echo (t.request message)

/-- Sends a notification. -/
def notify (c : Connection) (message : String) : Delivery Connection Unit :=
  match c with
  | http t => wrap http (t.notify message)
  | stream t => wrap stream (t.notify message)
  | echo t => wrap echo (t.notify message)

instance : Transport Connection where
  request := request
  notify := notify

/-- The transport over a stream that was opened. -/
def ofPeer (framing : Framing) (timeout : Option Nat) : Peer → Connection
  | .ends reader writer => stream { framing, timeout, reader, writer }
  | .echo => echo (.start framing timeout)

end Connection

/-- Why no transport was set up. -/
inductive ConnectError where
  /-- The command line of the server to start is blank. -/
  | noProgram
  | notStarted (commandLine : String) (e : IoError)
  | notConnected (address : String) (e : IoError)
  | endpoint (e : Transport.Error)
  deriving DecidableEq, Repr

/-- The wording of an error, and of what is behind it. -/
def ConnectError.chain : ConnectError → List String
  | noProgram => ["--stdio needs a command to run"]
  | notStarted commandLine e =>
    [s!"Failed to start '{commandLine}'", (Transport.Error.io e).message, e.text]
  | notConnected address e =>
    [s!"Failed to connect to {address}", (Transport.Error.io e).message, e.text]
  | endpoint e => [e.message]

/-- What comes of setting up a transport, and the notes of it. -/
abbrev Connecting := Except ConnectError Connection × List Note

/-- Starts the server of a command line. -/
def startServer (world : Surroundings) (g : Globals) (commandLine : String) : Connecting :=
  match (Text.splitWords Text.isBlank commandLine.toList).map String.ofList with
  | [] => (.error .noProgram, [])
  | program :: args =>
    match world.start program args with
    | .ok peer =>
      (.ok (.ofPeer g.framing g.timeout peer),
        [⟨.debug, "Spawned JSON-RPC server"⟩, ⟨.info, "Spawned server"⟩])
    | .error e => (.error (.notStarted commandLine e), [])

/-- Connects to a server. -/
def connectServer (world : Surroundings) (g : Globals) : Connecting :=
  let address := g.config.socketAddress
  match world.connect address with
  | .ok peer =>
    (.ok (.ofPeer g.framing g.timeout peer),
      [⟨.debug, "Connected to JSON-RPC server"⟩, ⟨.info, "Connected over TCP"⟩])
  | .error e => (.error (.notConnected address e), [])

/-- Sets up the posting of messages. -/
def useHttp (world : Surroundings) (g : Globals) : Connecting :=
  match g.config.endpoint with
  | .ok endpoint =>
    (.ok (.http { endpoint, timeout := g.timeout, peer := world.post endpoint }),
      [⟨.info, "Using HTTP transport"⟩])
  | .error e => (.error (.endpoint e), [])

/-- Sets up the transport that is asked for. -/
def connect (world : Surroundings) (g : Globals) : Connecting :=
  match g.stdio with
  | some commandLine => startServer world g commandLine
  | none => if g.tcp then connectServer world g else useHttp world g

end LspClient.Cli
