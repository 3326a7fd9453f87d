import OpenApiClient.Text.Replacement

/-!
# References

References to the named schemas of a document. In a name that is referred to, `~1` stands for a
slash and `~0` for a tilde.
-/
namespace OpenApiClient

/-- What a reference to a named schema starts with. -/
def schemaReferenceStart : String := "#/components/schemas/"

/-- The name for its form in a reference. -/
def decodeReferenceName (name : List Char) : List Char :=
  Text.replaceAll '~' ['0'] ['~'] (Text.replaceAll '~' ['1'] ['/'] name)

/-- The name of the schema that a reference names, if it names a schema of its own document. -/
def schemaOfReference (reference : String) : Option String :=
  let start := schemaReferenceStart.toList
  let name := reference.toList.drop start.length
  if start.isPrefixOf reference.toList ∧ name ≠ [] ∧ '/' ∉ name then
    some (String.ofList (decodeReferenceName name))
  else none

end OpenApiClient
