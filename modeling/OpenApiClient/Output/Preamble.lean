import OpenApiClient.Text.Replacement

/-!
# Preamble

The declarations at the top of every module: the import of the function that words an error, and
the base of all addresses, which is either a fixed text or made from the port in the environment.
-/
namespace OpenApiClient.Output

/-- What the preamble is made from. -/
structure Preamble where
  /-- Where the function that words an error is imported from. -/
  errorHelper : String := "~/utils/extract-error-message"
  /-- The environment variable with the port of the server. -/
  portVariable : String := "DOTNET_PORT"
  /-- A fixed base, in place of the one made from the port. -/
  baseUrl : Option String := none
deriving DecidableEq, Repr

/-- A text between single quotes; backslashes and single quotes are escaped. -/
def singleQuoted (text : List Char) : List Char :=
  '\x27' :: (Text.replaceAll '\x27' [] ['\\', '\x27']
    (Text.replaceAll '\\' [] ['\\', '\\'] text) ++ ['\x27'])

/-- A text as a string literal of the code. -/
def stringLiteral (text : String) : String := String.ofList (singleQuoted text.toList)

/-- The text without the slashes at its end. -/
def withoutTrailingSlashes (text : String) : String :=
  String.ofList (text.toList.reverse.dropWhile (· = '/')).reverse

namespace Preamble

/-- The import of the function that words an error. -/
def importLine (preamble : Preamble) : String :=
  "import extractErrorMessage from " ++ stringLiteral preamble.errorHelper ++ ";\n"

/-- The declarations of the base. -/
def baseLines (preamble : Preamble) : String :=
  match preamble.baseUrl with
  | some baseUrl =>
    "const BASE_URL = " ++ stringLiteral (withoutTrailingSlashes baseUrl) ++ ";\n"
  | none =>
    "const " ++ preamble.portVariable ++ " = process.env[" ++
      stringLiteral preamble.portVariable ++ "];\n" ++
      "const BASE_URL = \x60http://localhost:$\x7b" ++ preamble.portVariable ++ "\x7d\x60;\n"

/-- The text of the preamble. -/
def render (preamble : Preamble) : String := preamble.importLine ++ "\n" ++ preamble.baseLines

end Preamble

end OpenApiClient.Output
