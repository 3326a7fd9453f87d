import OpenApiClient.Client.Generation
import OpenApiClient.Command.Invocation

/-!
# Usage

What a run that is refused says: help, the version, or why its arguments cannot be used.
-/
namespace OpenApiClient.Command

def Refusal.reason : Refusal → String
  | helpShown => ""
  | versionShown => ""
  | helpForLack => ""
  | commandMissing => "error: a command is required"
  | argumentMissing => "error: a required option is missing"
  | unknownCommand => "error: unknown command"
  | invalidValue => "error: invalid or missing value of an option"
  | conflict => "error: an option is given twice"
  | unknownArgument => "error: unexpected argument"
  | needlessValue => "error: a value is given to an option that takes none"

/-- How the program is called. -/
def usageLines : List String :=
  ["OpenAPI to JavaScript client SDK generator",
    "",
    "Usage: " ++ Client.generatorName ++ " [--color <MODE>] [--theme <MODE>] <COMMAND>",
    "",
    "Commands:",
    "  list operations -i <FILE>",
    "  generate -i <FILE> -o <DIR> [--extension <EXT>] [--models-file <FILE>]",
    "           [--error-helper <PATH>] [--port-env <NAME>] [--base-url <URL>] [-v] [-q]",
    "  help [COMMAND]"]

/-- The lines that a refused run prints. -/
def Refusal.lines : Refusal → List String
  | helpShown => usageLines
  | helpForLack => usageLines
  | versionShown => [Client.generatorName ++ " " ++ Client.generatorVersion]
  | refusal => [refusal.reason]

end OpenApiClient.Command
