import OpenApiClient.Keyed
import OpenApiClient.MediaType
import OpenApiClient.Method
import OpenApiClient.Schema

/-!
# Documents

An API description with everything resolved: paths with their operations, and named schemas.
All tables keep the order of the document, and their keys are distinct by type.

What is sent and answered as JSON depends on the reading of media types, which is left open.
-/
namespace OpenApiClient

/-- Where a parameter is sent. -/
inductive Location where
  | query
  | path
  /-- Headers, cookies and whatever else. -/
  | other
deriving DecidableEq, Repr

def Location.ofText (text : String) : Location :=
  if text = "query" then .query else if text = "path" then .path else .other

structure Parameter where
  name : String
  location : Location
  schema : Schema
  description : Option String := none

/-- Schemas by content type. -/
abbrev Content := Keyed String Schema

/-- The schema of the first content type that denotes JSON, where `parse` reads media types. -/
def Content.jsonSchemaBy? (parse : List Char → Option MediaType) (content : Content) :
    Option Schema :=
  (content.entries.find? fun (contentType, _) => isJsonContentTypeBy parse contentType).map (·.2)

structure RequestBody where
  required : Bool := false
  description : Option String := none
  content : Content := .empty

structure Response where
  description : Option String := none
  /-- `none` if the response declares no content at all. -/
  content : Option Content := none

namespace Response

def hasContent (response : Response) : Bool :=
  match response.content with
  | some content => !content.isEmpty
  | none => false

def jsonSchemaBy? (parse : List Char → Option MediaType) (response : Response) : Option Schema :=
  response.content.bind (·.jsonSchemaBy? parse)

end Response

structure Operation where
  description : Option String := none
  parameters : List Parameter := []
  requestBody : Option RequestBody := none
  /-- Responses by status, as the document writes it. -/
  responses : Keyed String Response := .empty

namespace Operation

/-- The schema of the request body, if the operation takes JSON, where `parse` reads media
types. -/
def jsonBodyBy? (parse : List Char → Option MediaType) (operation : Operation) : Option Schema :=
  operation.requestBody.bind (·.content.jsonSchemaBy? parse)

/-- The schema of the body of a successful response, if it is JSON, where `parse` reads media
types. -/
def resultBy? (parse : List Char → Option MediaType) (operation : Operation) : Option Schema :=
  (operation.responses.get? "200").bind (·.jsonSchemaBy? parse)

/-- Whether the operation may answer that there is no content. -/
def mayBeEmpty (operation : Operation) : Bool := operation.responses.contains "204"

/-- Whether some declared response brings no content. -/
def mayBeNull (operation : Operation) : Bool :=
  operation.responses.entries.any fun (status, response) =>
    status == "204" || !response.hasContent

end Operation

/-- The operations of one path by method. -/
abbrev PathItem := Keyed Method Operation

structure Document where
  title : String := ""
  version : String := ""
  /-- `none` if the document has no table of paths. -/
  paths : Option (Keyed String PathItem) := none
  /-- `none` if the document has no table of schemas. -/
  schemas : Option (Keyed String Schema) := none

/-- One operation with its place in the document. -/
structure PlacedOperation where
  path : String
  method : Method
  operation : Operation

namespace Document

/-- Every operation in the order of the document. -/
def operations (document : Document) : List PlacedOperation :=
  match document.paths with
  | none => []
  | some paths =>
    paths.entries.flatMap fun (path, item) =>
      item.entries.map fun (method, operation) => ⟨path, method, operation⟩

end Document

end OpenApiClient
