import OpenApiClient.Schema
import OpenApiClient.Written.Reference

/-!
# Schemas as they are written

A schema with the keywords of a document, and the shape that the keywords mean.

A reference decides before everything else, then a type, then properties. A schema with neither
that combines exactly one schema with any number of schemas for null stands for that one schema:
the wrapper adds its notes and whether null is allowed.
-/
namespace OpenApiClient

/-- What stands under the keyword for types. -/
inductive TypeNames where
  | one (name : String)
  | several (names : List String)
deriving DecidableEq, Repr

/-- The type name of null. -/
def nullType : String := "null"

/-- The first type that is not null, and whether null is among the types. -/
def TypeNames.split : TypeNames → Option String × Bool
  | one name => if name = nullType then (none, true) else (some name, false)
  | several names => (names.find? (· ≠ nullType), names.contains nullType)

/-- A schema with the keywords of a document. -/
structure WrittenSchema where
  reference : Option String := none
  typeNames : Option TypeNames := none
  items : Option WrittenSchema := none
  properties : List (String × WrittenSchema) := []
  nullable : Bool := false
  description : Option String := none
  allOf : List WrittenSchema := []
  oneOf : List WrittenSchema := []
  anyOf : List WrittenSchema := []

/-- The type that is not null, if there is one, and whether null is among the types. -/
def splitTypes (typeNames : Option TypeNames) : Option String × Bool :=
  (typeNames.map TypeNames.split).getD (none, false)

namespace WrittenSchema

/-- Whether a schema admits null and nothing else. -/
def isNullOnly (schema : WrittenSchema) : Bool :=
  schema.reference.isNone && schema.properties.isEmpty &&
    splitTypes schema.typeNames = (none, true)

end WrittenSchema

/-- The one variant that is not marked as null, and whether any is marked so. -/
def singleVariant (variants : List (Bool × Schema)) : Option (Schema × Bool) :=
  match variants.filter (!·.1) with
  | [(_, variant)] => some (variant, variants.any (·.1))
  | _ => none

mutual

/-- The schema that the keywords mean. -/
def WrittenSchema.resolve : WrittenSchema → Schema
  | ⟨reference, typeNames, items, properties, nullable, description, allOf, oneOf, anyOf⟩ =>
    let (typeName, typeNullable) := splitTypes typeNames
    let notes : Notes := ⟨nullable || typeNullable, description⟩
    match reference with
    | some reference =>
      match schemaOfReference reference with
      | some name => .reference name notes
      | none => .primitive Schema.unknownType notes
    | none =>
      match typeName with
      | some typeName =>
        if typeName = "array" then .array (resolveItems items) notes
        else if typeName = "object" then .object (resolveProperties properties) notes
        else .primitive typeName notes
      | none =>
        if !properties.isEmpty then .object (resolveProperties properties) notes
        else
          let variants := resolveVariants allOf ++ resolveVariants oneOf ++ resolveVariants anyOf
          match singleVariant variants with
          | some (variant, withNull) =>
            variant.withNotes
              ⟨notes.nullable || (withNull || variant.nullable),
                notes.description.or variant.description⟩
          | none =>
            if items.isSome then .array (resolveItems items) notes
            else .primitive Schema.unknownType notes

/-- The schema of the items of an array. -/
def resolveItems : Option WrittenSchema → Schema
  | none => .unknown
  | some items => items.resolve

/-- The schemas of properties in order. -/
def resolveProperties : List (String × WrittenSchema) → List (String × Schema)
  | [] => []
  | (name, schema) :: rest => (name, schema.resolve) :: resolveProperties rest

/-- Combined schemas, each marked if it admits null only. -/
def resolveVariants : List WrittenSchema → List (Bool × Schema)
  | [] => []
  | schema :: rest => (schema.isNullOnly, schema.resolve) :: resolveVariants rest

end

theorem resolveProperties_eq_map (properties : List (String × WrittenSchema)) :
    resolveProperties properties = properties.map fun (name, schema) => (name, schema.resolve) := by
  induction properties with
  | nil => rfl
  | cons property rest ih => simp [resolveProperties, ih]

theorem resolveVariants_eq_map (schemas : List WrittenSchema) :
    resolveVariants schemas = schemas.map fun schema => (schema.isNullOnly, schema.resolve) := by
  induction schemas with
  | nil => rfl
  | cons schema rest ih => simp [resolveVariants, ih]

end OpenApiClient
