import ManifestLint.CommandLine.Arguments
import ManifestLint.Text.Styled

/-!
# Help

The help texts of the program and its commands, and the wording of usage errors.
-/

namespace ManifestLint.CommandLine

/-- The version of the program. -/
def versionText : String :=
  "pipeline-lint 0.4.0\n"

/-- Rows of two columns, the second one aligned. -/
def columns (rows : List (String × String)) : String :=
  let width := (rows.map (·.1.length)).foldl max 0
  String.join (rows.map fun row =>
    "  " ++ String.ofList (Text.padRight width row.1.toList) ++ "  " ++ row.2 ++ "\n")

/-- The rows about the options that every command has. -/
def commonOptions : List (String × String) :=
  [("-v, --verbose...", "Increase log verbosity (-v info, -vv debug, -vvv trace)"),
    ("-h, --help", "Print help")]

/-- What a command does, in a line. -/
def Topic.about : Topic → String
  | .program => "Static linter for CI pipeline YAML"
  | .lint => "Lint a pipeline file, or every pipeline file under a directory"
  | .listRules => "List all rules with their diagnostics"
  | .explain => "Show full explanation for a rule"
  | .help => "Print this message or the help of the given subcommand(s)"

/-- How a command is called. -/
def Topic.usage : Topic → String
  | .program => "Usage: pipeline-lint [OPTIONS] <COMMAND>"
  | .lint => "Usage: pipeline-lint lint [OPTIONS] <PATH>"
  | .listRules => "Usage: pipeline-lint list-rules [OPTIONS]"
  | .explain => "Usage: pipeline-lint explain [OPTIONS] <RULE_ID>"
  | .help => "Usage: pipeline-lint help [COMMAND]..."

/-- The commands, operands, and options of a command. -/
def Topic.details : Topic → String
  | .program =>
      "Commands:\n" ++
        columns (commandNames.map fun command => (command.1, command.2.about)) ++
        "\nOptions:\n" ++
        columns (commonOptions ++ [("-V, --version", "Print version")])
  | .lint =>
      "Arguments:\n" ++ columns [("<PATH>", "Path to a YAML file or a directory")] ++
        "\nOptions:\n" ++
        columns
          ([ ("    --trusted", "Treat the repository as trusted (allows privileged features)"),
             ("-f, --format <FORMAT>",
               "Output format [default: pretty] [possible values: pretty, json, sarif]"),
             ("-o, --output <OUTPUT>", "Write output to file instead of stdout"),
             ("    --config <CONFIG>", "Custom config file path") ] ++ commonOptions)
  | .listRules => "Options:\n" ++ columns commonOptions
  | .explain =>
      "Arguments:\n" ++ columns [("<RULE_ID>", "Rule ID (e.g., \"trust/privileged\")")] ++
        "\nOptions:\n" ++ columns commonOptions
  | .help => "Arguments:\n" ++ columns [("[COMMAND]...", "Print help for the subcommand(s)")]

/-- The help text of a command. -/
def Topic.helpText (topic : Topic) : String :=
  topic.about ++ "\n\n" ++ topic.usage ++ "\n\n" ++ topic.details

/-- What is wrong with the arguments, in a line. -/
def UsageError.summary : UsageError → String
  | .noArguments => "no arguments"
  | .noCommand => "'pipeline-lint' requires a subcommand but one was not provided"
  | .unknownCommand name => "unrecognized subcommand '" ++ name ++ "'"
  | .unknownArgument argument => "unexpected argument '" ++ argument ++ "' found"
  | .missingOperand name =>
      "the following required arguments were not provided: " ++ name
  | .missingValue option => "a value is required for '--" ++ option ++ "' but none was supplied"
  | .surplusValue option value =>
      "unexpected value '" ++ value ++ "' for '--" ++ option ++ "' found; no more were expected"
  | .invalidValue option value => "invalid value '" ++ value ++ "' for '" ++ option ++ "'"
  | .repeated option => "the argument '--" ++ option ++ "' cannot be used multiple times"

/-- The message about a usage error.  Without any arguments it is the help text. -/
def UsageError.message : UsageError → String
  | .noArguments => Topic.program.helpText
  | error =>
      "error: " ++ error.summary ++ "\n\n" ++ Topic.program.usage ++
        "\n\nFor more information, try '--help'.\n"

end ManifestLint.CommandLine
