import LspClient.Cli.Options

/-!
# Reading the command line

Options may stand before the command and among its arguments, with their values attached or as the
next argument. A value that is the next argument is looked at only when the option after it is met,
or at the end of its part of the line; so a mistake in what follows can win over one in the value.

Each part is completed from the environment on its own, and only then are the parts put together:
what is given with the command wins, then what is given before it, then the environment, then the
default.

The arguments and the variables are text. One that is not UTF-8 is no input here; the program
refuses it whatever the option, also where every text is a value of it.
-/

namespace LspClient.Cli

open Transport (Framing)

/-- An option whose value is not yet taken. -/
inductive Pending where
  | none
  /-- The next argument is its value. -/
  | awaiting (o : ValueOption)
  /-- Its value has been met but not looked at. -/
  | holding (o : ValueOption) (value : String)
  deriving DecidableEq, Repr

/-- How far the reading of a part of the line has come. -/
structure Progress where
  given : Given := {}
  pending : Pending := .none
  /-- Only arguments that are not options follow. -/
  onlyArguments : Bool := false
  deriving DecidableEq, Repr

namespace Progress

/-- Takes the value of a pending option. -/
def settle (p : Progress) : Except Refusal Progress :=
  match p.pending with
  | .none => .ok p
  | .awaiting _ => .error .invalidValue
  | .holding o value => do return { p with given := ← p.given.set o value, pending := .none }

/-- Meets an option whose value is attached to it. -/
def attach (p : Progress) (o : ValueOption) (value : String) : Except Refusal Progress := do
  let p ← p.settle
  return { p with given := ← p.given.set o value }

/-- Meets an option whose value is the next argument. -/
def await (p : Progress) (o : ValueOption) : Except Refusal Progress := do
  let p ← p.settle
  return { p with pending := .awaiting o }

/-- Meets a flag. -/
def raise (p : Progress) (f : Flag) : Except Refusal Progress := do
  let p ← p.settle
  return { p with given := ← p.given.raise f }

/-- Meets options of one letter each, of which the last may have a value attached. -/
def short (place : Place) : List Char → Progress → Except Refusal Progress
  | [], p => .ok p
  | c :: rest, p =>
    match (shortOption? c).filter (Choice.allowed place) with
    | none => .error .unknownArgument
    | some (.flag f) =>
      match p.raise f with
      | .ok p => short place rest p
      | .error e => .error e
    | some (.value o) =>
      match rest with
      | [] => p.await o
      | '=' :: value => p.attach o (String.ofList value)
      | value => p.attach o (String.ofList value)

/-- Meets an option by its long name, which a value may be attached to. -/
def long (place : Place) (s : List Char) (p : Progress) : Except Refusal Progress :=
  let (name, value) :=
    match Text.splitAtFirst '=' s with
    | some (name, value) => (name, some (String.ofList value))
    | none => (s, none)
  match (longOption? (String.ofList name)).filter (Choice.allowed place), value with
  | none, _ => .error .unknownArgument
  | some (.flag _), some _ => .error .tooManyValues
  | some (.flag f), none => p.raise f
  | some (.value o), some value => p.attach o value
  | some (.value o), none => p.await o

/-- How many arguments a command takes that are not options. -/
def capacity : CommandName → Nat
  | .handshake => 0
  | .call | .notify => 2

/-- Meets an argument that is no option. Before a command there is no place for one. -/
def argument (place : Place) (s : String) (p : Progress) : Except Refusal Progress :=
  match place with
  | .top =>
    if p.onlyArguments ∧ (s = helpCommand ∨ (commandName? s).isSome) then .error .unknownArgument
    else .error .invalidSubcommand
  | .within command =>
    if p.given.arguments.length < capacity command then do
      let p ← p.settle
      return { p with given := { p.given with arguments := p.given.arguments ++ [s] } }
    else .error .unknownArgument

/-- Meets an argument. -/
def meet (place : Place) (s : String) (p : Progress) : Except Refusal Progress :=
  if p.onlyArguments then p.argument place s
  else
    match s.toList with
    | ['-', '-'] => .ok { p with onlyArguments := true }
    | '-' :: '-' :: rest => p.long place rest
    | '-' :: c :: rest => p.short place (c :: rest)
    | _ =>
      match p.pending with
      | .awaiting o => .ok { p with pending := .holding o s }
      | _ => p.argument place s

/-- Whether the next argument may be a command. -/
def awaitsCommand (p : Progress) : Bool :=
  !p.onlyArguments &&
    match p.pending with
    | .awaiting _ => false
    | _ => true

end Progress

/-- What help is asked for: that of the program or of one command. -/
def help : List String → Refusal
  | [] => .displayHelp
  | [name] =>
    if name = helpCommand ∨ (commandName? name).isSome then .displayHelp else .invalidSubcommand
  | _ => .invalidSubcommand

/-- Reads the arguments of a command. -/
def readWithin (command : CommandName) (args : List String) : Except Refusal Progress :=
  args.foldlM (fun p s ↦ p.meet (.within command) s) {}

/-- Reads the line up to a command, which comes back with its arguments. -/
def readTop (p : Progress) :
    List String → Except Refusal (Progress × Option (CommandName × List String))
  | [] => .ok (p, none)
  | s :: rest =>
    if p.awaitsCommand ∧ s = helpCommand then .error (help rest)
    else
      match if p.awaitsCommand then commandName? s else none with
      | some command => .ok (p, some (command, rest))
      | none =>
        match p.meet .top s with
        | .ok p => readTop p rest
        | .error e => .error e

/-! ### The environment -/

/-- The variables that stand in for options, each of them not set or set to a text. A value that is
not UTF-8 is left out: such a value of any of them, the host and the path included, is refused where
the variable is looked at. -/
structure Environment where
  host : Option String := none
  port : Option String := none
  path : Option String := none
  timeout : Option String := none
  deriving DecidableEq, Repr

/-- The value of an option in a part of the line, or else in the environment. A value in the
environment is looked at only if the part gives none. -/
def orElse {α : Type} (given : Option α) (read : String → Except Refusal α)
    (fallback : Option String) : Except Refusal (Option α) :=
  match given, fallback with
  | some a, _ => .ok (some a)
  | none, some s => (read s).map some
  | none, none => .ok none

/-- Checks the environment for what a part of the line leaves open. -/
def checkEnvironment (env : Environment) (g : Given) : Except Refusal Unit := do
  let _ ← orElse g.port readPort env.port
  let _ ← orElse g.timeout readTimeout env.timeout

/-- Whether a part of the line names two transports. -/
def namesTwoTransports (g : Given) : Bool :=
  g.tcp && g.stdio.isSome

/-- Whether an argument is missing in a part of the line. -/
def lacksArgument (place : Place) (g : Given) : Bool :=
  match place with
  | .within .call | .within .notify => g.arguments.isEmpty
  | _ => false

/-- Completes a part of the line. -/
def complete (env : Environment) (place : Place) (p : Progress) : Except Refusal Given := do
  let p ← p.settle
  checkEnvironment env p.given
  if namesTwoTransports p.given then .error .argumentConflict
  if lacksArgument place p.given then .error .missingRequiredArgument
  return p.given

/-! ### The whole line -/

/-- The options that hold for every command. -/
structure Globals where
  host : String
  port : UInt16
  path : String
  timeout : Option Nat
  idStyle : IdStyle
  paramsStyle : ParamsStyle
  framing : Framing
  tcp : Bool
  /-- The command line of a server to start. -/
  stdio : Option String
  debug : Nat
  deriving DecidableEq, Repr

/-- The configuration of the client. -/
def Globals.config (g : Globals) : Config where
  host := g.host
  port := g.port
  path := g.path
  timeout := g.timeout
  idStyle := g.idStyle
  paramsStyle := g.paramsStyle

/-- What is to be done. -/
inductive Command where
  | handshake (processId : UInt32) (rootPath : String)
  | call (method : String) (params : Option String)
  | notify (method : String) (params : Option String)
  deriving DecidableEq, Repr

/-- A command line. -/
structure Invocation where
  globals : Globals
  command : Option Command
  deriving DecidableEq, Repr

/-- The command that the arguments of one make up. -/
def command (name : CommandName) (g : Given) : Command :=
  match name with
  | .handshake => .handshake (g.processId.getD 1) (g.rootPath.getD "/")
  | .call => .call (g.arguments.head?.getD "") g.arguments[1]?
  | .notify => .notify (g.arguments.head?.getD "") g.arguments[1]?

/-- The options that hold, given those before the command and those with it. -/
def merge (env : Environment) (top within : Given) : Except Refusal Globals := do
  let defaults : Config := {}
  let port ← orElse (within.port.or top.port) readPort env.port
  let timeout ← orElse (within.timeout.or top.timeout) readTimeout env.timeout
  return {
    host := (((within.host.or top.host).or env.host)).getD defaults.host
    port := port.getD defaults.port
    path := ((within.path.or top.path).or env.path).getD defaults.path
    timeout := timeout
    idStyle := (within.idStyle.or top.idStyle).getD defaults.idStyle
    paramsStyle := (within.paramsStyle.or top.paramsStyle).getD defaults.paramsStyle
    framing := (within.framing.or top.framing).getD .contentLength
    tcp := within.tcp || top.tcp
    stdio := within.stdio.or top.stdio
    debug := (within.debug.or top.debug).getD 0
  }

/-- Reads a command line. What is wrong with the arguments of the command comes before what is only
seen at the end of the part before it. -/
def parse (env : Environment) (args : List String) : Except Refusal Invocation := do
  let (p, rest) ← readTop {} args
  match rest with
  | none =>
    let top ← complete env .top p
    return ⟨← merge env top {}, none⟩
  | some (name, args) =>
    let within ← complete env (.within name) (← readWithin name args)
    let top ← complete env .top p
    return ⟨← merge env top within, some (command name within)⟩

end LspClient.Cli
