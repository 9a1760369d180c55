import LspClient.Transport.Error

/-!
# Transports

A transport moves a message that has been written out to the server and brings back the raw
response. It knows nothing of ids or envelopes. What an operation does is described by its outcome,
the state it leaves the transport in, and the notes it makes for the log.

An operation may also never return. That is an outcome like the others, so that "it always answers"
is something to prove.
-/

namespace LspClient

/-- How grave a note is. -/
inductive Level where
  | error
  | warn
  | info
  | debug
  | trace
  deriving DecidableEq, Repr

/-- How often more information has to be asked for until notes of a level are logged. -/
def Level.rank : Level → Nat
  | .error | .warn => 0
  | .info => 1
  | .debug => 2
  | .trace => 3

/-- What is noted for the log. -/
structure Note where
  level : Level
  text : String
  deriving DecidableEq, Repr

/-- What comes of an operation. -/
inductive Outcome (ε α : Type) where
  /-- It returned a value. -/
  | done (a : α)
  /-- It failed. -/
  | failed (e : ε)
  /-- It waits for ever. -/
  | never
  deriving DecidableEq, Repr

namespace Outcome

variable {ε ε' α β : Type}

/-- The outcome with its value mapped. -/
def map (f : α → β) : Outcome ε α → Outcome ε β
  | done a => done (f a)
  | failed e => failed e
  | never => never

/-- The outcome with its error mapped. -/
def mapError (f : ε → ε') : Outcome ε α → Outcome ε' α
  | done a => done a
  | failed e => failed (f e)
  | never => never

/-- A result as an outcome. -/
def ofExcept : Except ε α → Outcome ε α
  | .ok a => done a
  | .error e => failed e

end Outcome

/-- What comes of handing a message to a transport. -/
structure Delivery (σ α : Type) where
  outcome : Outcome Transport.Error α
  /-- The transport afterwards. -/
  transport : σ
  notes : List Note

/-- A way of delivering messages to a server, with `σ` for its state. -/
class Transport (σ : Type) where
  /-- Delivers a request and brings back the body of the response. -/
  request : σ → String → Delivery σ String
  /-- Delivers a notification, to which there is no response. -/
  notify : σ → String → Delivery σ Unit

end LspClient
