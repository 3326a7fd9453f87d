import OpenApiClient.Client.Generation
import OpenApiClient.Command.Invocation
import OpenApiClient.Source

/-!
# Settings

How a client is to be generated. Settings that could not give usable files are refused.
-/
namespace OpenApiClient.Command

open Output

/-- How a client is asked for. -/
structure Wishes where
  input : String
  output : String
  extension : String := ({} : Layout).extension
  modelsFile : String := ({} : Layout).modelsFile
  errorHelper : String := ({} : Preamble).errorHelper
  portVariable : String := ({} : Preamble).portVariable
  baseUrl : Option String := none
  verbose : Bool := false
  quiet : Bool := false
deriving DecidableEq, Repr

/-- How a client is generated. -/
structure Settings where
  input : String
  output : String
  preamble : Preamble
  layout : Layout
  verbose : Bool
  quiet : Bool
deriving DecidableEq, Repr

/-- Why settings are refused. -/
inductive SettingsError where
  | verboseAndQuiet
  | emptyExtension
  | modelsFile (name : String)
  | portVariable (name : String)
deriving DecidableEq, Repr

def SettingsError.message : SettingsError → String
  | verboseAndQuiet => "--verbose and --quiet cannot be used together"
  | emptyExtension => "Module file extension (--extension) must not be empty"
  | modelsFile name =>
    "Invalid models file name '" ++ name ++ "': expected a bare file name (e.g., Models.d.ts)"
  | portVariable name =>
    "Invalid port environment variable '" ++ name ++
      "': expected letters, digits and underscores"

/-- Whether a name is one part of a path. -/
def isBareName (name : String) : Bool :=
  name ≠ "" && name ≠ "." && name ≠ ".." && !name.toList.contains '/'

/-- Whether a name is that of a variable, in the environment as in the code. -/
def isVariableName (name : String) : Bool :=
  match name.toList with
  | [] => false
  | first :: rest =>
    (first.isAlpha || first = '_') && rest.all fun c => c.isAlphanum || c = '_'

/-- The settings that are asked for, or the first reason to refuse them. -/
def Settings.ofWishes (wishes : Wishes) : Except SettingsError Settings :=
  let extension := withoutLeadingDots wishes.extension
  if wishes.verbose && wishes.quiet then .error .verboseAndQuiet
  else if extension = "" then .error .emptyExtension
  else if !isBareName wishes.modelsFile then .error (.modelsFile wishes.modelsFile)
  else if !isVariableName wishes.portVariable then .error (.portVariable wishes.portVariable)
  else
    .ok
      { input := wishes.input
        output := wishes.output
        preamble := ⟨wishes.errorHelper, wishes.portVariable, wishes.baseUrl⟩
        layout := ⟨extension, wishes.modelsFile⟩
        verbose := wishes.verbose
        quiet := wishes.quiet }

/-- What the options of a command line ask for. -/
def Wishes.ofOptions (value? : OptionName → Option String) : Wishes :=
  let defaults : Wishes := { input := "", output := "" }
  { input := (value? .input).getD ""
    output := (value? .output).getD ""
    extension := (value? .extension).getD defaults.extension
    modelsFile := (value? .modelsFile).getD defaults.modelsFile
    errorHelper := (value? .errorHelper).getD defaults.errorHelper
    portVariable := (value? .portVariable).getD defaults.portVariable
    baseUrl := value? .baseUrl
    verbose := (value? .verbose).isSome
    quiet := (value? .quiet).isSome }

end OpenApiClient.Command
