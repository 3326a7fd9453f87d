import OpenApiClient.Command.Plan
import OpenApiClient.Command.Settings
import OpenApiClient.Terminal.Color
import OpenApiClient.Terminal.Table

/-!
# Runs

The two commands as plans: generating a client for a document, with a report on what was made and
what was left out, and listing the operations of a document with the functions for them.

* `planOf`: the plan for the arguments of a command line, for any ASCII spelling and any reading of
  media types.
-/
namespace OpenApiClient.Command

open Client Output Terminal

/-- Reads a document and goes on with it, or ends with the reason why there is none. -/
def withDocument (path : String) (next : Document → Plan) : Plan :=
  .read path fun
    | none => .finish (some ("failed to open " ++ path))
    | some bytes =>
      match (Format.ofPath path).read bytes with
      | .error failure => .finish (some failure.message)
      | .ok document => next document

/-! ## Listing operations -/

/-- What stands in place of a function where there is none. -/
def skippedMark : String := "(skipped)"

/-- An operation with the function for it. -/
structure OperationRow where
  function : String
  module : String
  method : String
  path : String
deriving DecidableEq, Repr

namespace OperationRow

def ofOperation (spell : List Char → List Char) (operation : PlacedOperation) : OperationRow :=
  let (module, function) := (functionOfPath spell operation.path).getD ("-", skippedMark)
  ⟨function, module, operation.method.token, operation.path⟩

/-- Whether there is no function for the operation. -/
def isSkipped (row : OperationRow) : Bool := row.function = skippedMark

def cells (row : OperationRow) : Row :=
  [.ofText row.function, .ofText row.module, .ofText row.method .right, .ofText row.path]

end OperationRow

section

variable (spell : List Char → List Char)

/-- One row for each operation in the order of the document. -/
def operationRows (document : Document) : List OperationRow :=
  document.operations.map (.ofOperation spell)

/-- The table of the operations of a document. -/
def operationTable (document : Document) : String :=
  tableText (["FUNCTION", "MODULE", "METHOD", "PATH"].map (Cell.ofText ·))
    ((operationRows spell document).map (·.cells))

/-- Lists the operations of a document. -/
def listOperations (input : String) : Plan :=
  withDocument input fun document =>
    .print (.output (operationTable spell document)) (.finish none)

end

/-! ## Generating -/

/-- How a report looks: its colors, and the time that stands before its lines. -/
structure Style where
  palette : Palette
  time : String

/-- What stands before lines without a time. -/
def indentation : String := "            "

namespace Style

/-- A line with the time before it. -/
def timed (style : Style) (color : Color) (text : String) : Line :=
  .output (styled style.palette.timestamp style.time ++ " " ++ styled color text)

/-- A line about what goes on. -/
def info (style : Style) (text : String) : Line := style.timed style.palette.primary text

/-- A line with a number. -/
def count (style : Style) (label value : String) : Line :=
  .output (indentation ++ styled style.palette.label label ++ " " ++
    styled style.palette.value value)

/-- A line with a warning. -/
def warning (style : Style) (warning : Warning) : Line :=
  let label := if warning.isSkipped then "Skipped:" else "Warning:"
  .message (styled style.palette.warning label ++ " " ++
    styled style.palette.primary warning.message)

/-- A line about a file. -/
def wrote (style : Style) (path : String) : Line :=
  .output (indentation ++ styled style.palette.accent "wrote" ++ " " ++
    styled style.palette.value path)

end Style

/-- The lines that are printed unless the run is quiet. -/
def unlessQuiet (settings : Settings) (lines : List Line) : List Line :=
  if settings.quiet then [] else lines

/-- A line with a number, unless it is zero. -/
def countUnlessZero (style : Style) (label : String) (value : Nat) : List Line :=
  if value = 0 then [] else [style.count label (toString value)]

/-- The warnings of a run that are shown: those about paths and modules that cannot be used, and
all others only on demand. -/
def shownWarnings (verbose : Bool) (statistics : Statistics) : List Warning :=
  statistics.warnings.filter fun warning =>
    warning.isSkipped || warning.breaksModule || verbose

/-- What a run has made and what it has left out. -/
def statisticsLines (style : Style) (verbose : Bool) (statistics : Statistics) : List Line :=
  [style.count "Modules generated:" (toString statistics.modules),
    style.count "Functions generated:" (toString statistics.functions)] ++
    (if statistics.duplicates = 0 then []
      else [style.count "" (toString statistics.duplicates ++ " duplicates collapsed")]) ++
    [style.count "Models generated:" (toString statistics.models)] ++
    countUnlessZero style "Paths skipped:" statistics.skipped ++
    countUnlessZero style "Warnings:" statistics.warnings.length ++
    match shownWarnings verbose statistics with
    | [] => []
    | warnings => .output "" :: warnings.map style.warning

/-- The lines after the files have been written. -/
def writtenLines (style : Style) (settings : Settings) (paths : List String) (count : Nat) :
    List Line :=
  (if settings.verbose then paths.map style.wrote else []) ++
    unlessQuiet settings [.output "",
      style.timed style.palette.success
        ("Successfully generated " ++ toString count ++ " file(s)")]

/-- Writes what has been generated. -/
def writeGenerated (style : Style) (settings : Settings) (generated : Generated) : Plan :=
  .write settings.output generated.files fun
    | .error failure => .finish (some failure.message)
    | .ok paths =>
      .printAll (writtenLines style settings paths generated.files.length) (.finish none)

/-- Generates the client for a document. -/
def generateClient (spell : List Char → List Char) (parse : List Char → Option MediaType)
    (style : Style) (settings : Settings) : Plan :=
  .printAll
    (unlessQuiet settings [style.info ("Loading OpenAPI document from: " ++ settings.input)])
    (withDocument settings.input fun document =>
      let generated :=
        generate spell parse document settings.preamble settings.layout settings.input
      .printAll
        (unlessQuiet settings
          ([style.info ("Generating JavaScript client for " ++ document.title ++ " " ++
              document.version ++ "...")] ++
            statisticsLines style settings.verbose generated.statistics ++
            [style.info ("Writing to: " ++ settings.output)]))
        (writeGenerated style settings generated))

/-! ## Command lines -/

def colorModeOf : Option String → ColorMode
  | some "always" => .always
  | some "never" => .never
  | _ => .auto

def themeModeOf : Option String → ThemeMode
  | some "dark" => .dark
  | some "light" => .light
  | _ => .auto

section

variable (spell : List Char → List Char) (parse : List Char → Option MediaType)

/-- The plan for the values of a command line. -/
def planOfValues (levels : List LevelValues) (environment : Environment) (time : String) :
    Plan :=
  let value? := valueOf? levels
  match commandOf levels with
  | .generate =>
    match Settings.ofWishes (.ofOptions value?) with
    | .error failure => .finish (some failure.message)
    | .ok settings =>
      let palette :=
        .ofModes (colorModeOf (value? .color)) (themeModeOf (value? .theme)) environment
      generateClient spell parse ⟨palette, time⟩ settings
  | _ => listOperations spell ((value? .input).getD "")

/-- The plan for the arguments of a command line, or why there is none. -/
def planOf (arguments : List String) (environment : Environment) (time : String) :
    Except Refusal Plan := do
  return planOfValues spell parse (← parseArguments arguments) environment time

end

end OpenApiClient.Command
