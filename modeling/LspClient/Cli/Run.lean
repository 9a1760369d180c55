import LspClient.Cli.Connection
import LspClient.Cli.Usage

/-!
# Runs

What a run of the program prints, logs and exits with. A result is printed as the server gave it,
with indentation. Anything else that may come of a run goes to the log, and the exit status says
that it failed.

The transport is set up before the params are looked at.
-/

namespace LspClient.Cli

/-- Why a command failed. -/
inductive RunError where
  | connect (e : ConnectError)
  /-- The params are not JSON. -/
  | params (text : String) (fault : Json.Fault)
  | client (e : ClientError)

namespace RunError

/-- The wording of an error, and of what is behind it. -/
def chain : RunError → List String
  | connect e => e.chain
  | params text fault => [s!"Params are not valid JSON: {text}", fault.message text.toList]
  | client e => e.message :: e.cause.toList

/-- The wording of an error and of what is behind it, in one line. -/
def message (e : RunError) : String :=
  ": ".intercalate e.chain

end RunError

/-- What comes of a command: what it prints, or why it failed. -/
structure Performance where
  outcome : Outcome RunError String
  connection : Option Connection
  notes : List Note

/-- The params that are given as text; without any, `null`. -/
def readParams : Option String → Except RunError Json
  | none => .ok .null
  | some text => (Json.read text).mapError (.params text)

/-- What is printed for a result. -/
def printed (v : Json) : String :=
  v.indentedText ++ "\n"

/-- A step of the client as what comes of a command. -/
def ofStep {α : Type} (print : α → String) (s : Step Connection α) : Performance where
  outcome := (s.outcome.map print).mapError .client
  connection := some s.client.transport
  notes := s.notes

/-- Carries out a command with a client. -/
def perform (client : Client Connection) : Command → Performance
  | .handshake processId rootPath =>
    let params : Lsp.InitializeParams := { processId := some processId, rootPath := some rootPath }
    ofStep printed (client.call Lsp.initializeMethod params.payload)
  | .call method params =>
    match readParams params with
    | .ok v => ofStep printed (client.call method (.json v))
    | .error e => ⟨.failed e, some client.transport, []⟩
  | .notify method params =>
    match readParams params with
    | .ok v => ofStep (fun _ ↦ "") (client.notify method (.json v))
    | .error e => ⟨.failed e, some client.transport, []⟩

/-- The command that is carried out where none is given. -/
def defaultCommand : Command :=
  .handshake 1 "/"

/-- Carries out what a command line asks for. -/
def execute (world : Surroundings) (uuids : Nat → String) (i : Invocation) : Performance :=
  match connect world i.globals with
  | (.error e, notes) => ⟨.failed (.connect e), none, notes⟩
  | (.ok transport, notes) =>
    let client : Client Connection :=
      { transport, uuids, idStyle := i.globals.idStyle, paramsStyle := i.globals.paramsStyle }
    let p := perform client (i.command.getD defaultCommand)
    { p with notes := notes ++ p.notes }

/-! ### The log -/

/-- The notes that are in the log when more information is asked for so many times. -/
def logged (debug : Nat) (notes : List Note) : List Note :=
  notes.filter fun note ↦ note.level.rank ≤ debug

/-! ### The whole program -/

/-- What is seen of a run that has ended. -/
structure Ended where
  exit : Nat
  stdout : String
  /-- What is said to the user besides the log. -/
  stderr : String := ""

/-- What is seen of a run. -/
structure Report where
  /-- How it ended, unless it never does. -/
  ended : Option Ended
  log : List Note
  /-- The connection that it leaves behind. -/
  connection : Option Connection

/-- The note of success. -/
def successNote : Note :=
  ⟨.debug, "command executed successfully"⟩

/-- What is seen of a command that was carried out. -/
def report (debug : Nat) (p : Performance) : Report :=
  match p.outcome with
  | .done stdout =>
    ⟨some { exit := 0, stdout }, logged debug (p.notes ++ [successNote]), p.connection⟩
  | .failed e =>
    let notes := p.notes ++ [⟨.error, e.message⟩]
    ⟨some { exit := 1, stdout := "" }, logged debug notes, p.connection⟩
  | .never => ⟨none, logged debug p.notes, p.connection⟩

/-- What is seen of a command line that is not carried out. -/
def refuse : Refusal → Ended
  | .displayVersion => { exit := 0, stdout := versionText ++ "\n" }
  | .displayHelp => { exit := 0, stdout := usageText ++ "\n" }
  | refusal =>
    { exit := 2, stdout := "", stderr := s!"error: {refusal.message}\n\n{usageText}\n" }

/-- Runs the program. -/
def run (world : Surroundings) (uuids : Nat → String) (env : Environment) (args : List String) :
    Report :=
  match parse env args with
  | .error refusal => ⟨some (refuse refusal), [], none⟩
  | .ok i => report i.globals.debug (execute world uuids i)

end LspClient.Cli
