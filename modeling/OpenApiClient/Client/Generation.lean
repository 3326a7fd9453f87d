import OpenApiClient.Client.FunctionCode
import OpenApiClient.Client.Statistics
import OpenApiClient.Output.Layout
import OpenApiClient.Output.Preamble

/-!
# Generation

All files for a document: one for each module, and one with the declarations of its schemas.
Every file starts with a banner that names the document.
-/
namespace OpenApiClient.Client

open Output

/-- The name and the version under which generated files name this program. -/
def generatorName : String := "oas3-js-gen"

def generatorVersion : String := "0.1.0"

/-- The lines of a text, without blanks at their ends and without empty ones, in one line. -/
def singleLine (text : String) : String :=
  joinedBy " " (((Text.lines text.toList).map Text.trim).filter (· ≠ []) |>.map String.ofList)

/-- The comment at the top of every file. -/
def banner (document : Document) (source : String) : String :=
  codeOf ["// AUTO-GENERATED CODE - DO NOT EDIT!",
    "//",
    "// " ++ singleLine document.title,
    "// Source: " ++ source,
    "// Version: " ++ singleLine document.version,
    "// Generated by \x60" ++ generatorName ++ "\x60 v" ++ generatorVersion]

/-- Everything that is made from a document. -/
structure Generated where
  /-- One file for each module, in the order of the paths. -/
  modules : List GeneratedFile
  /-- The declarations, if the document has a table of schemas. -/
  models : Option GeneratedFile
  statistics : Statistics
deriving DecidableEq

namespace Generated

/-- All files, the declarations last. -/
def files (generated : Generated) : List GeneratedFile :=
  generated.modules ++ generated.models.toList

end Generated

/-- The file for a module. -/
def moduleFile (banner : String) (preamble : Preamble) (layout : Layout)
    (module : ClientModule) : GeneratedFile :=
  .ofText (layout.moduleFile module.name)
    (banner ++ "\n" ++ preamble.render ++ "\n" ++ module.code)

/-- The file with the declarations. -/
def modelsFile (banner : String) (layout : Layout) (declarations : List Declaration) :
    GeneratedFile :=
  .ofText layout.modelsFile (banner ++ "\n" ++ declarationsCode declarations)

/-- The files for a document that was read from `source`, and what is to be said about it. Names
are spelt by `spell`, and media types read by `parse`. -/
def generate (spell : List Char → List Char) (parse : List Char → Option MediaType)
    (document : Document) (preamble : Preamble) (layout : Layout) (source : String) : Generated :=
  let banner := banner document source
  let grouping := document.paths.map (Grouping.ofPaths spell parse)
  let declarations := document.schemas.map fun schemas => declarationsOf schemas.entries
  let counted : Statistics :=
    match grouping with
    | some grouping => ({} : Statistics).addModules grouping
    | none => ({} : Statistics).addWarning .missingPaths
  { modules :=
      match grouping with
      | some grouping =>
        (grouping.modules.filter (·.functions ≠ [])).map (moduleFile banner preamble layout)
      | none => []
    models := declarations.map (modelsFile banner layout)
    statistics :=
      match declarations with
      | some declarations => counted.addModels declarations
      | none => counted.addWarning .missingSchemas }

end OpenApiClient.Client
