import OpenApiClient.Written.Document
import OpenApiClient.Written.Shape

/-!
# Readings

What a reader of any format brings: a tree of texts, flags, lists and tables that has the shape
of a document, with absent fields left out. `Reading.document` names its parts.
-/
namespace OpenApiClient

/-- A value of a document. -/
inductive Reading where
  | text (value : String)
  | flag (value : Bool)
  | typeNames (names : TypeNames)
  | list (items : List Reading)
  /-- The fields of a record or the entries of a table; no key occurs twice. -/
  | entries (rows : List (String × Reading))

namespace Reading

def text? : Reading → Option String
  | .text value => some value
  | _ => none

def isTrue : Reading → Bool
  | .flag value => value
  | _ => false

def typeNames? : Reading → Option TypeNames
  | .typeNames names => some names
  | _ => none

def items : Reading → List Reading
  | .list items => items
  | _ => []

def pairs : Reading → List (String × Reading)
  | .entries rows => rows
  | _ => []

/-- The value of a field. -/
def field? (record : Reading) (key : String) : Option Reading :=
  (record.pairs.find? (·.1 = key)).map (·.2)

/-- The text in a field that may be absent. -/
def textAt? (record : Reading) (key : String) : Option String :=
  (record.field? key).bind text?

/-- The text in a field that is empty if it is absent. -/
def textAt (record : Reading) (key : String) : String := (record.textAt? key).getD ""

/-- The entries of a table, each read by `f`. -/
def tableOf {α : Type} (f : Reading → α) (table : Reading) : Keyed String α :=
  .ofList (table.pairs.map fun (key, value) => (key, f value))

/-- The table in a field that is empty if it is absent. -/
def tableAt {α : Type} (f : Reading → α) (record : Reading) (key : String) : Keyed String α :=
  ((record.field? key).map (tableOf f)).getD .empty

/-- The list in a field that is empty if it is absent. -/
def listAt {α : Type} (f : Reading → α) (record : Reading) (key : String) : List α :=
  ((record.field? key).map fun list => list.items.map f).getD []

/-! ## Schemas -/

mutual

/-- The schema in a record. -/
def schema : Reading → WrittenSchema
  | .entries fields => schemaOfFields fields
  | _ => {}

def schemaOfFields : List (String × Reading) → WrittenSchema
  | [] => {}
  | (key, value) :: rest =>
    let schema := schemaOfFields rest
    match key with
    | "$ref" => { schema with reference := value.text? }
    | "type" => { schema with typeNames := value.typeNames? }
    | "items" => { schema with items := some value.schema }
    | "properties" => { schema with properties := value.schemaTable }
    | "nullable" => { schema with nullable := value.isTrue }
    | "description" => { schema with description := value.text? }
    | "allOf" => { schema with allOf := value.schemaList }
    | "oneOf" => { schema with oneOf := value.schemaList }
    | "anyOf" => { schema with anyOf := value.schemaList }
    | _ => schema

/-- The schemas in a table with their names. -/
def schemaTable : Reading → List (String × WrittenSchema)
  | .entries rows => schemasOfEntries rows
  | _ => []

def schemasOfEntries : List (String × Reading) → List (String × WrittenSchema)
  | [] => []
  | (key, value) :: rest => (key, value.schema) :: schemasOfEntries rest

/-- The schemas in a list. -/
def schemaList : Reading → List WrittenSchema
  | .list items => schemasOfItems items
  | _ => []

def schemasOfItems : List Reading → List WrittenSchema
  | [] => []
  | value :: rest => value.schema :: schemasOfItems rest

end

/-! ## Documents -/

def parameter (record : Reading) : WrittenParameter :=
  { name := record.textAt "name"
    location := record.textAt "in"
    schema := (record.field? "schema").map schema
    description := record.textAt? "description" }

def mediaType (record : Reading) : WrittenMediaType := ⟨(record.field? "schema").map schema⟩

def requestBody (record : Reading) : WrittenRequestBody :=
  { required := ((record.field? "required").map isTrue).getD false
    description := record.textAt? "description"
    content := record.tableAt mediaType "content" }

def response (record : Reading) : WrittenResponse :=
  { description := record.textAt? "description"
    content := (record.field? "content").map (tableOf mediaType) }

def operation (record : Reading) : WrittenOperation :=
  { summary := record.textAt? "summary"
    description := record.textAt? "description"
    parameters := record.listAt parameter "parameters"
    requestBody := (record.field? "requestBody").map requestBody
    responses := record.tableAt response "responses" }

/-- The methods that a path may have, with the fields that hold their operations. -/
def methodFields : List (String × Method) :=
  [("get", .get), ("put", .put), ("post", .post), ("delete", .delete), ("options", .options),
    ("head", .head), ("patch", .patch), ("trace", .trace)]

/-- The operations stand in the order of `methodFields`, whatever the order of the fields. -/
def pathItem (record : Reading) : WrittenPathItem :=
  { parameters := record.listAt parameter "parameters"
    operations := .ofList (methodFields.filterMap fun (key, method) =>
      (record.field? key).map fun value => (method, value.operation)) }

/-- The document in a record. -/
def document (record : Reading) : WrittenDocument :=
  let info := (record.field? "info").getD (.entries [])
  { title := info.textAt "title"
    version := info.textAt "version"
    paths := (record.field? "paths").map (tableOf pathItem)
    schemas := do
      let components ← record.field? "components"
      let schemas ← components.field? "schemas"
      pure (.ofList schemas.schemaTable) }

end Reading

end OpenApiClient
