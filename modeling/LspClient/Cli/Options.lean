import LspClient.Client.Config
import LspClient.Transport.Framing

/-!
# The options of the command line

What can be asked for on the command line, what a value of each option has to look like, and what is
said when it does not.
-/

namespace LspClient.Cli

open Transport (Framing)

/-- Why a command line is not carried out. The last two are not mistakes: help or the version was
asked for. -/
inductive Refusal where
  /-- There is no such option, or there are too many arguments. -/
  | unknownArgument
  /-- An option has no value, or one that is not on its list. -/
  | invalidValue
  /-- The value of an option is no number, or one out of range. -/
  | valueValidation
  /-- An option is given again, or beside one that excludes it. -/
  | argumentConflict
  | missingRequiredArgument
  /-- There is no such command. -/
  | invalidSubcommand
  /-- An option that takes no value has one. -/
  | tooManyValues
  | displayHelp
  | displayVersion
  deriving DecidableEq, Repr

/-- The commands. -/
inductive CommandName where
  | handshake
  | call
  | notify
  deriving DecidableEq, Repr

/-- The command of a name. -/
def commandName? : String → Option CommandName
  | "initialize" => some .handshake
  | "call" => some .call
  | "notify" => some .notify
  | _ => none

/-- The command that shows help. -/
def helpCommand : String :=
  "help"

/-- Where in a command line an option stands: before a command, or among its arguments. -/
inductive Place where
  | top
  | within (command : CommandName)
  deriving DecidableEq, Repr

/-- The options that take a value. -/
inductive ValueOption where
  | host | port | path | timeout | idStyle | paramsStyle | framing | stdio
  | processId | rootPath
  deriving DecidableEq, Repr

/-- The options that take none. -/
inductive Flag where
  | tcp | debug | help | version
  deriving DecidableEq, Repr

/-- The options. -/
inductive Choice where
  | value (o : ValueOption)
  | flag (f : Flag)
  deriving DecidableEq, Repr

/-- Whether an option may stand in a place: the options of the handshake only among its arguments,
and the one for the version only before any command. -/
def Choice.allowed (place : Place) : Choice → Bool
  | value .processId | value .rootPath => place == .within .handshake
  | flag .version => place == .top
  | _ => true

/-- The option of a long name. -/
def longOption? (name : String) : Option Choice :=
  match name with
  | "host" => some (.value .host)
  | "port" => some (.value .port)
  | "path" => some (.value .path)
  | "timeout-ms" => some (.value .timeout)
  | "id-style" => some (.value .idStyle)
  | "params-style" => some (.value .paramsStyle)
  | "framing" => some (.value .framing)
  | "stdio" => some (.value .stdio)
  | "process-id" => some (.value .processId)
  | "root-path" => some (.value .rootPath)
  | "tcp" => some (.flag .tcp)
  | "debug" => some (.flag .debug)
  | "help" => some (.flag .help)
  | "version" => some (.flag .version)
  | _ => none

/-- The option of one letter. -/
def shortOption? : Char → Option Choice
  | 'p' => some (.value .port)
  | 'd' => some (.flag .debug)
  | 'h' => some (.flag .help)
  | 'V' => some (.flag .version)
  | _ => none

/-! ### Values -/

/-- Reads a number of at most `limit`. -/
def readNumber (limit : Nat) (value : String) : Except Refusal Nat :=
  match Decimal.readUnsigned limit value.toList with
  | .ok n => .ok n
  | .error _ => .error .valueValidation

/-- Reads a port. -/
def readPort (value : String) : Except Refusal UInt16 :=
  (readNumber (UInt16.size - 1) value).map UInt16.ofNat

/-- Reads a process id. -/
def readProcessId (value : String) : Except Refusal UInt32 :=
  (readNumber (UInt32.size - 1) value).map UInt32.ofNat

/-- Reads a time in milliseconds. No minus sign is allowed in front of it. -/
def readTimeout (value : String) : Except Refusal Nat :=
  match Decimal.read (UInt64.size - 1) value.toList with
  | .ok n => .ok n
  | .error _ => .error .valueValidation

/-- Reads a style of ids. -/
def readIdStyle : String → Except Refusal IdStyle
  | "uuid" => .ok .uuid
  | "sequential" => .ok .sequential
  | _ => .error .invalidValue

/-- Reads a style of params. -/
def readParamsStyle : String → Except Refusal ParamsStyle
  | "positional" => .ok .positional
  | "by-name" => .ok .byName
  | _ => .error .invalidValue

/-- Reads a framing. -/
def readFraming : String → Except Refusal Framing
  | "lines" => .ok .lines
  | "content-length" => .ok .contentLength
  | _ => .error .invalidValue

/-- What one part of a command line gives, before a command or among its arguments. -/
structure Given where
  host : Option String := none
  port : Option UInt16 := none
  path : Option String := none
  timeout : Option Nat := none
  idStyle : Option IdStyle := none
  paramsStyle : Option ParamsStyle := none
  framing : Option Framing := none
  stdio : Option String := none
  processId : Option UInt32 := none
  rootPath : Option String := none
  tcp : Bool := false
  /-- How often more information for debugging is asked for, if it is; counted up to 255. -/
  debug : Option Nat := none
  /-- The arguments that are not options, in order. -/
  arguments : List String := []
  deriving DecidableEq, Repr

namespace Given

/-- Gives an option a value that it must not have yet. -/
def once {α : Type} (old : Option α) (new : Except Refusal α) : Except Refusal (Option α) :=
  match old with
  | some _ => .error .argumentConflict
  | none => new.map some

/-- Gives an option a value. -/
def set (g : Given) (o : ValueOption) (value : String) : Except Refusal Given :=
  match o with
  | .host => do return { g with host := ← once g.host (.ok value) }
  | .port => do return { g with port := ← once g.port (readPort value) }
  | .path => do return { g with path := ← once g.path (.ok value) }
  | .timeout => do return { g with timeout := ← once g.timeout (readTimeout value) }
  | .idStyle => do return { g with idStyle := ← once g.idStyle (readIdStyle value) }
  | .paramsStyle => do return { g with paramsStyle := ← once g.paramsStyle (readParamsStyle value) }
  | .framing => do return { g with framing := ← once g.framing (readFraming value) }
  | .stdio => do return { g with stdio := ← once g.stdio (.ok value) }
  | .processId => do return { g with processId := ← once g.processId (readProcessId value) }
  | .rootPath => do return { g with rootPath := ← once g.rootPath (.ok value) }

/-- The most that asking for more information is counted. -/
def greatestDebug : Nat :=
  255

/-- Raises a flag. -/
def raise (g : Given) : Flag → Except Refusal Given
  | .tcp => if g.tcp then .error .argumentConflict else .ok { g with tcp := true }
  | .debug => .ok { g with debug := some (min greatestDebug (g.debug.getD 0 + 1)) }
  | .help => .error .displayHelp
  | .version => .error .displayVersion

end Given

end LspClient.Cli
