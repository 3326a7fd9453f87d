import OpenApiClient.Text.Quoted

/-!
# Property keys

A property is named as it is where its name is a plain identifier, and by a JSON string
everywhere else.
-/
namespace OpenApiClient.Naming

def startsIdentifier (c : Char) : Bool := c.isAlpha || c == '_' || c == '$'

def continuesIdentifier (c : Char) : Bool := c.isAlphanum || c == '_' || c == '$'

/-- Whether a text can stand as a name without quotes. -/
def isPlain : List Char → Bool
  | [] => false
  | first :: rest => startsIdentifier first && rest.all continuesIdentifier

def propertyKeyChars (name : List Char) : List Char :=
  if isPlain name then name else Text.quoted name

/-- The key under which a property is declared. -/
def propertyKey (name : String) : String := String.ofList (propertyKeyChars name.toList)

end OpenApiClient.Naming
