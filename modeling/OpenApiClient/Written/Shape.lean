/-!
# The shape of documents

Which fields the records of a document have, in which order, and what stands in them. Every
format is read by this one table: `Kind.fields`.
-/
namespace OpenApiClient

/-- The records that a document is made of. -/
inductive Kind where
  | document
  | info
  | components
  | pathItem
  | operation
  | parameter
  | requestBody
  | response
  | mediaType
  | schema
deriving DecidableEq, Repr

/-- The name under which messages speak of a record. -/
def Kind.name : Kind → String
  | document => "RawDocument"
  | info => "RawInfo"
  | components => "RawComponents"
  | pathItem => "RawPathItem"
  | operation => "RawOperation"
  | parameter => "RawParameter"
  | requestBody => "RawRequestBody"
  | response => "RawResponse"
  | mediaType => "RawMediaType"
  | schema => "RawSchema"

/-- What stands in a field. -/
inductive Shape where
  | text
  | flag
  /-- One type name or a list of them. -/
  | typeNames
  | list (item : Kind)
  /-- Records under names that the document chooses. -/
  | table (value : Kind)
  | record (kind : Kind)
deriving DecidableEq, Repr

/-- What messages say is expected. -/
def Shape.expectation : Shape → String
  | text => "a string"
  | flag => "a boolean"
  | typeNames => "a string or a list of strings"
  | list _ => "a sequence"
  | table _ => "a map"
  | record kind => "struct " ++ kind.name

/-- A field of a record. -/
structure RecordField where
  key : String
  shape : Shape
  /-- Whether the field may be null, which then means that it is absent. A field that may not be
  null has a value of its own for when it is absent. -/
  nullable : Bool
deriving DecidableEq, Repr

/-- A field that is absent or null if nothing is said. -/
def RecordField.optional (key : String) (shape : Shape) : RecordField := ⟨key, shape, true⟩

/-- A field that is empty or false if nothing is said. -/
def RecordField.defaulted (key : String) (shape : Shape) : RecordField := ⟨key, shape, false⟩

open RecordField in
/-- The fields of a record, in the order in which a list of values fills them. -/
def Kind.fields : Kind → List RecordField
  | document => [defaulted "info" (.record info), optional "paths" (.table pathItem),
      optional "components" (.record components)]
  | info => [defaulted "title" .text, defaulted "version" .text]
  | components => [optional "schemas" (.table schema)]
  | pathItem => [defaulted "parameters" (.list parameter),
      optional "get" (.record operation), optional "put" (.record operation),
      optional "post" (.record operation), optional "delete" (.record operation),
      optional "options" (.record operation), optional "head" (.record operation),
      optional "patch" (.record operation), optional "trace" (.record operation)]
  | operation => [optional "summary" .text, optional "description" .text,
      defaulted "parameters" (.list parameter), optional "requestBody" (.record requestBody),
      defaulted "responses" (.table response)]
  | parameter => [defaulted "name" .text, defaulted "in" .text,
      optional "schema" (.record schema), optional "description" .text]
  | requestBody => [defaulted "required" .flag, optional "description" .text,
      defaulted "content" (.table mediaType)]
  | response => [optional "description" .text, optional "content" (.table mediaType)]
  | mediaType => [optional "schema" (.record schema)]
  | schema => [optional "$ref" .text, optional "type" .typeNames,
      optional "items" (.record schema), defaulted "properties" (.table schema),
      defaulted "nullable" .flag, optional "description" .text,
      defaulted "allOf" (.list schema), defaulted "oneOf" (.list schema),
      defaulted "anyOf" (.list schema)]

/-- The field of a record with the given key. -/
def Kind.field? (kind : Kind) (key : String) : Option RecordField :=
  kind.fields.find? (·.key = key)

end OpenApiClient
