import OpenApiClient.Document
import OpenApiClient.Written.Schema

/-!
# Documents as they are written

A document with the keywords of its format, and the document that they mean. Parameters of a
path hold for each of its operations that does not declare the same parameter itself.
-/
namespace OpenApiClient

structure WrittenParameter where
  name : String := ""
  /-- Where the parameter is sent, as the document words it. -/
  location : String := ""
  schema : Option WrittenSchema := none
  description : Option String := none

structure WrittenMediaType where
  schema : Option WrittenSchema := none

structure WrittenRequestBody where
  required : Bool := false
  description : Option String := none
  content : Keyed String WrittenMediaType := .empty

structure WrittenResponse where
  description : Option String := none
  content : Option (Keyed String WrittenMediaType) := none

structure WrittenOperation where
  summary : Option String := none
  description : Option String := none
  parameters : List WrittenParameter := []
  requestBody : Option WrittenRequestBody := none
  responses : Keyed String WrittenResponse := .empty

structure WrittenPathItem where
  parameters : List WrittenParameter := []
  operations : Keyed Method WrittenOperation := .empty

structure WrittenDocument where
  title : String := ""
  version : String := ""
  paths : Option (Keyed String WrittenPathItem) := none
  schemas : Option (Keyed String WrittenSchema) := none

/-! ## Meaning -/

/-- The schema of a parameter or a body, or what stands in for it. -/
def resolveSchema (otherwise : Schema) (schema : Option WrittenSchema) : Schema :=
  (schema.map (·.resolve)).getD otherwise

namespace WrittenParameter

def resolve (parameter : WrittenParameter) : Parameter :=
  { name := parameter.name
    location := .ofText parameter.location
    schema := resolveSchema (.primitive "string") parameter.schema
    description := parameter.description }

/-- Whether two parameters are declared for the same name and the same place. -/
def overrides (own shared : WrittenParameter) : Bool :=
  own.name = shared.name && own.location = shared.location

end WrittenParameter

/-- The parameters of an operation: those of its path that it does not override, then its own.
Parameters without a name are left out. -/
def resolveParameters (shared own : List WrittenParameter) : List Parameter :=
  let inherited := shared.filter fun parameter => !own.any (·.overrides parameter)
  ((inherited ++ own).filter (·.name ≠ "")).map (·.resolve)

def resolveContent (content : Keyed String WrittenMediaType) : Content :=
  content.map fun media => resolveSchema .unknown media.schema

namespace WrittenRequestBody

def resolve (body : WrittenRequestBody) : RequestBody :=
  ⟨body.required, body.description, resolveContent body.content⟩

end WrittenRequestBody

namespace WrittenResponse

def resolve (response : WrittenResponse) : Response :=
  ⟨response.description, response.content.map resolveContent⟩

end WrittenResponse

namespace WrittenOperation

/-- The operation, with the parameters that its path shares. -/
def resolve (shared : List WrittenParameter) (operation : WrittenOperation) : Operation :=
  { description := operation.description.or operation.summary
    parameters := resolveParameters shared operation.parameters
    requestBody := operation.requestBody.map (·.resolve)
    responses := operation.responses.map (·.resolve) }

end WrittenOperation

namespace WrittenPathItem

def resolve (item : WrittenPathItem) : PathItem :=
  item.operations.map (·.resolve item.parameters)

end WrittenPathItem

namespace WrittenDocument

/-- The document that is meant. -/
def resolve (document : WrittenDocument) : Document :=
  { title := document.title
    version := document.version
    paths := document.paths.map (·.map (·.resolve))
    schemas := document.schemas.map (·.map (·.resolve)) }

end WrittenDocument

end OpenApiClient
