/-!
# Schemas

The shape of a value: a primitive, an array, an object or a reference to a named schema, each
possibly nullable and described, and the type expressions that name these shapes.
-/
namespace OpenApiClient

/-- What a schema says besides its shape. -/
structure Notes where
  nullable : Bool := false
  description : Option String := none
deriving DecidableEq, Repr, Inhabited

/-- The shape of a value. -/
inductive Schema where
  /-- Any type name that is no structure, kept as it is written. -/
  | primitive (typeName : String) (notes : Notes := {})
  | array (items : Schema) (notes : Notes := {})
  | object (properties : List (String × Schema)) (notes : Notes := {})
  /-- The name of a schema among those that the document names. -/
  | reference (name : String) (notes : Notes := {})
deriving Inhabited, Repr

namespace Schema

/-- The type name of a schema that says nothing usable. -/
def unknownType : String := "unknown"

def unknown : Schema := .primitive unknownType

def notes : Schema → Notes
  | .primitive _ n => n
  | .array _ n => n
  | .object _ n => n
  | .reference _ n => n

/-- The same shape with other notes. -/
def withNotes (notes : Notes) : Schema → Schema
  | .primitive typeName _ => .primitive typeName notes
  | .array items _ => .array items notes
  | .object properties _ => .object properties notes
  | .reference name _ => .reference name notes

def nullable (schema : Schema) : Bool := schema.notes.nullable

def description (schema : Schema) : Option String := schema.notes.description

end Schema

/-! ## Type expressions -/

/-- What follows the type of a value that may be null. -/
def nullMark : String := " | null"

/-- A type expression with the mark of null, if the value may be null. -/
def marked (typeText : String) (nullable : Bool) : String :=
  if nullable then typeText ++ nullMark else typeText

/-- The type name under which a primitive is known in declarations. -/
def primitiveType (typeName : String) : String :=
  if typeName = "integer" then "number" else typeName

namespace Schema

/-- The type expression of a schema, where `qualifier` stands before the name of every schema
that is referred to. -/
def typeText (qualifier : String) : Schema → String
  | .primitive typeName _ => primitiveType typeName
  | .array items _ => items.typeText qualifier ++ "[]"
  | .object _ _ => "object"
  | .reference name _ => qualifier ++ name

/-- The type expression with the mark of null, if the outermost schema is nullable. -/
def nullableTypeText (qualifier : String) (schema : Schema) : String :=
  marked (schema.typeText qualifier) schema.nullable

end Schema

/-- The primitive types whose values are written as bare text. -/
inductive Scalar where
  | string
  | number
  | boolean
deriving DecidableEq, Repr

/-- The scalar that a type expression names. -/
def Scalar.ofTypeText? (typeText : String) : Option Scalar :=
  if typeText = "string" then some .string
  else if typeText = "number" ∨ typeText = "integer" then some .number
  else if typeText = "boolean" then some .boolean
  else none

end OpenApiClient
