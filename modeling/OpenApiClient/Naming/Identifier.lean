import OpenApiClient.Naming.Humps

/-!
# Identifiers

Names for functions and their parameters, made from any text.

* `identifierBy`: the words of the text in camel case, the first one small.
* `functionNameBy`: the identifier, with an underscore where the language forbids it.

Both are made from the spelling of the text in ASCII. How a text is spelt is left open.
-/
namespace OpenApiClient.Naming

/-- Words that may not name a function or a parameter. -/
def reservedWords : List String := [
    "arguments", "await", "break", "case", "catch", "class", "const", "continue", "debugger",
    "default", "delete", "do", "else", "enum", "eval", "export", "extends", "false", "finally",
    "for", "function", "if", "implements", "import", "in", "instanceof", "interface", "let",
    "new", "null", "package", "private", "protected", "public", "return", "static", "super",
    "switch", "this", "throw", "true", "try", "typeof", "var", "void", "while", "with", "yield"]

/-- The longest runs of letters and digits. -/
def words : List Char → List (List Char)
  | [] => []
  | c :: rest =>
    if c.isAlphanum then
      match rest with
      | [] => [[c]]
      | next :: _ => if next.isAlphanum then attach c (words rest) else [c] :: words rest
    else words rest

/-- A hump with a capital first and small letters after it. -/
def capitalized : List Char → List Char
  | [] => []
  | first :: rest => first.toUpper :: rest.map Char.toLower

/-- Humps in camel case: the first one small, every other one capitalized. -/
def camelCase : List (List Char) → List Char
  | [] => []
  | first :: more => first.map Char.toLower ++ more.flatMap capitalized

section

variable (spell : List Char → List Char)

/-- The humps of a text that `spell` spells in ASCII. Apostrophes are left out, and everything
else that is no letter and no digit separates words. -/
def humpsBy (text : List Char) : List (List Char) :=
  (words ((spell text).filter (· ≠ '\x27'))).flatMap humps

/-- The identifier for a text; empty if its spelling has no letter and no digit. -/
def identifierBy (text : List Char) : List Char := camelCase (humpsBy spell text)

end

/-- An underscore before a name that starts with a digit. -/
def guardDigit : List Char → List Char
  | [] => []
  | first :: rest => if first.isDigit then '_' :: first :: rest else first :: rest

/-- An underscore after a reserved word. -/
def guardReserved (name : String) : String :=
  if name ∈ reservedWords then name.push '_' else name

/-- The name of the function for a path segment that `spell` spells in ASCII; empty if nothing of
the segment is left. -/
def functionNameBy (spell : List Char → List Char) (segment : String) : String :=
  guardReserved (String.ofList (guardDigit (identifierBy spell segment.toList)))

end OpenApiClient.Naming
