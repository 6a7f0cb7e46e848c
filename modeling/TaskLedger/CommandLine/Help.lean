import TaskLedger.CommandLine.Switch
import TaskLedger.Text.Lines

/-!
# Help

What is told to somebody who asks for help, or whose command line is not obeyed.
-/

namespace TaskLedger.CommandLine

/-- How the program is used. -/
def usage : String :=
  Text.lines [
    "Buffered task outcome logging pipeline",
    "",
    "Usage: task-log [OPTIONS] <COMMAND>",
    "",
    "Commands:",
    "  run       Run the pipeline against a synthetic workload",
    "            [-c FILE] [--duration S] [--producers N] [--rate N] [--failure-rate X]",
    "            [--flush-interval-ms MS] [--dry-run] [--metrics-port PORT]",
    "  validate  Validate configuration file without running",
    "            [-c FILE] [--json]",
    "  info      Display configuration information",
    "            [-c FILE] [--json] [--categories]",
    "  help      Print this message",
    "",
    "Options:",
    "  -v, --verbose               Increase logging verbosity",
    "  -q, --quiet                 Suppress all output except warnings and errors",
    "      --log-format FORMAT     Log output format: json, pretty or compact",
    "  -h, --help                  Print help",
    "  -V, --version               Print version"]

namespace ArgumentFault

/-- What is told about a fault. -/
def message : ArgumentFault → String
  | unknownArgument => "unexpected argument found"
  | invalidValue => "a value is missing or not possible for an argument"
  | valueValidation => "invalid value for an argument"
  | argumentConflict => "an argument cannot be used with another one"
  | tooManyValues => "unexpected value for an argument"
  | invalidSubcommand => "unrecognized subcommand"
  | missingSubcommand => "a subcommand is required but one was not provided"
  | nothing | help => usage
  | version => "task-log 0.1.0"

/-- Whether somebody asked for what is told. -/
def isWanted : ArgumentFault → Bool
  | help | version => true
  | _ => false

end ArgumentFault

end TaskLedger.CommandLine
