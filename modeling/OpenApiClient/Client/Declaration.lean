import OpenApiClient.Client.Code
import OpenApiClient.Naming.PropertyKey
import OpenApiClient.Schema

/-!
# Declarations

The type declarations for the schemas that a document names: an interface for an object, an
alias for everything else.
-/
namespace OpenApiClient.Client

/-- A property of an interface. -/
structure DeclaredProperty where
  name : String
  typeText : String
  description : Option String
deriving DecidableEq, Repr

/-- What a declaration says of its name. -/
inductive DeclaredShape where
  | interface (properties : List DeclaredProperty)
  | typeAlias (typeText : String)
deriving DecidableEq, Repr

/-- A declaration of a named type. -/
structure Declaration where
  name : String
  description : Option String
  shape : DeclaredShape
deriving DecidableEq, Repr

/-- The property for a schema. -/
def DeclaredProperty.ofSchema (name : String) (schema : Schema) : DeclaredProperty :=
  ⟨name, schema.nullableTypeText "", schema.description⟩

/-- The shape for a schema. -/
def DeclaredShape.ofSchema : Schema → DeclaredShape
  | .object properties _ =>
    .interface (properties.map fun (name, schema) => .ofSchema name schema)
  | schema => .typeAlias (schema.nullableTypeText "")

/-- The lines of a comment with a description, each behind `indent`; none if there is nothing to
say. -/
def docComment (indent : String) (description : Option String) : List String :=
  match visibleText description with
  | none => []
  | some text =>
    let body := (Text.lines (insideComment (String.ofList text)).toList).map fun line =>
      String.ofList (Text.trimEnd line)
    match body with
    | [line] => [indent ++ "/** " ++ line ++ " */"]
    | body =>
      [indent ++ "/**"] ++
        body.map (fun line =>
          if line = "" then indent ++ " *" else indent ++ " * " ++ line) ++
        [indent ++ " */"]

namespace DeclaredProperty

/-- The line that declares a property. -/
def line (property : DeclaredProperty) : String :=
  tab ++ Naming.propertyKey property.name ++ ": " ++ property.typeText ++ ";"

def lines (property : DeclaredProperty) : List String :=
  docComment tab property.description ++ [property.line]

end DeclaredProperty

namespace Declaration

/-- The declaration for a named schema. -/
def ofSchema (name : String) (schema : Schema) : Declaration :=
  ⟨name, schema.description, .ofSchema schema⟩

def codeLines (declaration : Declaration) : List String :=
  docComment "" declaration.description ++
    match declaration.shape with
    | .interface properties =>
      ["export interface " ++ declaration.name ++ " \x7b"] ++ properties.flatMap (·.lines) ++
        ["\x7d"]
    | .typeAlias typeText => ["export type " ++ declaration.name ++ " = " ++ typeText ++ ";"]

/-- The code of a declaration. -/
def code (declaration : Declaration) : String := codeOf declaration.codeLines

end Declaration

/-- One declaration for every schema in order. -/
def declarationsOf (schemas : List (String × Schema)) : List Declaration :=
  schemas.map fun (name, schema) => .ofSchema name schema

/-- The code of all declarations, with a blank line between every two. -/
def declarationsCode (declarations : List Declaration) : String :=
  joinedBy "\n" (declarations.map (·.code))

end OpenApiClient.Client
