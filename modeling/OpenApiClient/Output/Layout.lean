import OpenApiClient.Text.Replacement

/-!
# Layout

The names of the files that are written, and the files themselves.
-/
namespace OpenApiClient.Output

/-- How the written files are named. -/
structure Layout where
  /-- What follows the last dot in the names of modules. -/
  extension : String := "js"
  /-- The name of the file with the declarations. -/
  modelsFile : String := "Models.d.ts"
deriving DecidableEq, Repr

/-- The text without the dots at its start. -/
def withoutLeadingDots (text : String) : String :=
  String.ofList (text.toList.dropWhile (· = '.'))

/-- The name of the file for a module. -/
def Layout.moduleFile (layout : Layout) (module : String) : String :=
  module ++ ".server." ++ withoutLeadingDots layout.extension

/-- A text with line feeds as its only line ends. -/
def unifiedLineEnds (text : String) : String := String.ofList (Text.unifyLineEnds text.toList)

/-- A file to be written. -/
structure GeneratedFile where
  name : String
  content : String
deriving DecidableEq, Repr

/-- The file with a text whose line ends are unified. -/
def GeneratedFile.ofText (name text : String) : GeneratedFile := ⟨name, unifiedLineEnds text⟩

end OpenApiClient.Output
