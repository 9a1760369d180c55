import LspClient.Cli.Options

/-!
# Usage

What the program says about itself, and about a command line that it does not understand.
-/

namespace LspClient.Cli

/-- The name and version of the program. -/
def versionText : String :=
  "lsprpc 0.1.0"

/-- How the program is called. -/
def usageText : String :=
  "Usage: lsprpc [OPTIONS] [COMMAND]

Commands:
  initialize  Perform the LSP handshake and print the server's answer
  call        Invoke an arbitrary method and print its result
  notify      Send a notification
  help        Print this message

Options:
      --host <HOST>                  Host of the server [env: LSPRPC_HOST]
  -p, --port <PORT>                  Port of the server [env: LSPRPC_PORT]
      --path <PATH>                  HTTP path of the endpoint [env: LSPRPC_PATH]
      --timeout-ms <TIMEOUT_MS>      Time for a request [env: LSPRPC_TIMEOUT_MS]
      --id-style <ID_STYLE>          uuid or sequential
      --params-style <PARAMS_STYLE>  positional or by-name
      --tcp                          Connect over TCP instead of HTTP
      --stdio <COMMAND>              Start a server and talk to it over its input and output
      --framing <FRAMING>            lines or content-length
  -d, --debug                        Turn debugging information on
  -h, --help                         Print help
  -V, --version                      Print version"

/-- The wording of a refusal. -/
def Refusal.message : Refusal → String
  | .unknownArgument => "unexpected argument found"
  | .invalidValue => "invalid value for an option"
  | .valueValidation => "a value is not a number in range"
  | .argumentConflict => "an option is given twice or cannot be used with another"
  | .missingRequiredArgument => "a required argument was not provided"
  | .invalidSubcommand => "unrecognized command"
  | .tooManyValues => "unexpected value for an option"
  | .displayHelp => "help was asked for"
  | .displayVersion => "the version was asked for"

end LspClient.Cli
