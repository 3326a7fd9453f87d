import OpenApiClient.Text.Blank
import OpenApiClient.Text.Lines
import OpenApiClient.Text.Replacement

/-!
# Pieces of code

Code is a list of lines until it is written. Here are the pieces that functions and declarations
share: how lines become a text, and how a description is kept inside a comment.
-/
namespace OpenApiClient.Client

/-- Texts with `separator` between every two of them. -/
def joinedBy (separator : String) (parts : List String) : String :=
  String.ofList (Text.joined separator.toList (parts.map (·.toList)))

/-- Lines as a text, each with a line feed after it. -/
def codeOf (lines : List String) : String := joinedBy "\n" lines ++ "\n"

/-- A text that does not end the comment it stands in: a slash after a star is escaped. -/
def insideComment (text : String) : String :=
  String.ofList (Text.replaceAll '*' ['/'] ['*', '\\', '/'] text.toList)

/-- The text without the blanks at its ends, if anything is left. -/
def visibleText (text : Option String) : Option (List Char) :=
  match text with
  | none => none
  | some text => if Text.trim text.toList = [] then none else some (Text.trim text.toList)

/-- One level of indentation. -/
def tab : String := "  "

/-- An expression inside a template literal. -/
def interpolated (expression : String) : String := "$\x7b" ++ expression ++ "\x7d"

/-- A template literal. -/
def templateLiteral (body : String) : String := "\x60" ++ body ++ "\x60"

end OpenApiClient.Client
