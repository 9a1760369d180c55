import LspClient.Cli.Run
import LspClient.Client.Uuid

/-!
# The program

The outer layer: it takes the command line and the environment, and shows what comes of the run.
This build reaches no network and starts no programs, and says so where one is asked for.
-/

namespace LspClient.Program

/-- What a run meets outside. -/
def surroundings : Cli.Surroundings where
  post _ := .absent
  connect _ := .error ⟨.networkUnreachable, "Network is unreachable (os error 101)"⟩
  start _ _ := .error ⟨.unsupported, "starting programs is not supported"⟩

/-- The environment of the program. -/
def readEnvironment : IO Cli.Environment := do
  return {
    host := ← IO.getEnv "LSPRPC_HOST"
    port := ← IO.getEnv "LSPRPC_PORT"
    path := ← IO.getEnv "LSPRPC_PATH"
    timeout := ← IO.getEnv "LSPRPC_TIMEOUT_MS"
  }

/-- UUIDs from a random beginning. -/
def drawUuids : IO (Nat → String) := do
  let high ← IO.rand 0 0x1fffffffffffffff
  let low ← IO.rand 0 0x1fffffffffffffff
  return fun n ↦ Uuid.text (high <<< 61 + low + n)

/-- The name of a level in the log. -/
def levelName : Level → String
  | .error => "ERROR"
  | .warn => "WARN"
  | .info => "INFO"
  | .debug => "DEBUG"
  | .trace => "TRACE"

/-- Runs the program on its arguments. -/
def run (args : List String) : IO UInt32 := do
  let report := Cli.run surroundings (← drawUuids) (← readEnvironment) args
  for note in report.log do
    let level := levelName note.level
    IO.eprintln s!"{level} {note.text}"
  match report.ended with
  | some ended =>
    IO.print ended.stdout
    IO.eprint ended.stderr
    return .ofNat ended.exit
  | none => return 1

end LspClient.Program

/-- Runs the program on its arguments. -/
def main (args : List String) : IO UInt32 :=
  LspClient.Program.run args
