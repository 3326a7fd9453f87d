import OpenApiClient.Command.Settings
import OpenApiClient.Proofs.Client.Bindings
import OpenApiClient.Proofs.Client.FileLines
import OpenApiClient.Proofs.Schema.TypeText
import OpenApiClient.Text.Latin

/-!
# References to declarations

The documentation of a function names the types of its parameters, of the payload and of the
answer. Where such a type is a named schema, or an array of one at any depth, the name stands
behind a qualifier that leads to the file with the declarations. The declarations themselves are
made from the table of schemas, and their file is named by the layout; the qualifier is not.

Results:
* `typeText_of_referred?`: how the type expression of a named schema is written.
* `schemas_mentions`: the documentation has a tag for everything that is sent or answered.
* `stated_of_mem_mentions`: what the tag says, and that it is a line of the documentation.
* `hasLine_of_refers`: the tag stands in the file of the module.
* `declares_generate`: every schema of the table is declared in the file of the layout.
* `references_resolve_iff`: exactly when the qualifier leads to the file with the declarations.
-/
namespace OpenApiClient

/-! ## References in schemas -/

mutual

/-- The names of the schemas that a schema refers to, at any depth. -/
def Schema.references : Schema → List String
  | .primitive .. => []
  | .array items _ => items.references
  | .object properties _ => propertyReferences properties
  | .reference name _ => [name]

/-- The names of the schemas that properties refer to. -/
def propertyReferences : List (String × Schema) → List String
  | [] => []
  | (_, schema) :: rest => schema.references ++ propertyReferences rest

end

namespace Schema

/-- The name of the schema that a schema is a reference to, or an array of, at any depth. -/
def referred? : Schema → Option String
  | .primitive .. => none
  | .array items _ => items.referred?
  | .object .. => none
  | .reference name _ => some name

theorem mem_references_of_referred? {schema : Schema} {name : String}
    (h : schema.referred? = some name) : name ∈ schema.references := by
  fun_induction referred? schema with
  | case1 => cases h
  | case2 items notes ih => rw [references]; exact ih h
  | case3 => cases h
  | case4 other notes => cases h; rw [references]; exact List.mem_singleton_self name

/-- A named schema is written as its name behind the qualifier. -/
theorem typeText_of_referred? {schema : Schema} {name : String}
    (h : schema.referred? = some name) (qualifier : String) :
    schema.typeText qualifier = qualifier ++ name ++ schema.brackets := by
  fun_induction referred? schema with
  | case1 => cases h
  | case2 items notes ih => rw [typeText, ih h, brackets, String.append_assoc]
  | case3 => cases h
  | case4 other notes => cases h; rw [typeText, brackets, String.append_empty]

end Schema

/-! ## Documents that name what they refer to -/

namespace Operation

/-- All schemas of an operation, also those that no function shows. -/
def schemas (operation : Operation) : List Schema :=
  operation.parameters.map (·.schema) ++
    operation.requestBody.toList.flatMap (·.content.values) ++
    operation.responses.values.flatMap fun response => response.content.toList.flatMap (·.values)

/-- The schemas that a function for an operation shows: those of the parameters that are sent, of
the payload and of the answer. -/
def shownSchemas (parse : List Char → Option MediaType) (operation : Operation) : List Schema :=
  (operation.parameters.filter Client.Argument.isSent).map (·.schema) ++
    (operation.jsonBodyBy? parse).toList ++ (operation.resultBy? parse).toList

end Operation

section

variable {parse : List Char → Option MediaType}

theorem Content.mem_values_of_jsonSchemaBy? {content : Content} {schema : Schema}
    (h : content.jsonSchemaBy? parse = some schema) : schema ∈ content.values := by
  obtain ⟨entry, hentry, rfl⟩ := Option.map_eq_some_iff.mp h
  exact List.mem_map_of_mem (List.mem_of_find?_eq_some hentry)

theorem Operation.mem_schemas_of_shown {operation : Operation} {schema : Schema}
    (h : schema ∈ operation.shownSchemas parse) : schema ∈ operation.schemas := by
  unfold shownSchemas at h
  unfold schemas
  simp only [List.mem_append, List.mem_map, List.mem_filter, Option.mem_toList] at h ⊢
  rcases h with (⟨parameter, ⟨hparameter, -⟩, rfl⟩ | hbody) | hresult
  · exact .inl (.inl ⟨parameter, hparameter, rfl⟩)
  · obtain ⟨body, hbody, hjson⟩ := Option.bind_eq_some_iff.mp hbody
    refine .inl (.inr (List.mem_flatMap.mpr ⟨body, Option.mem_toList.mpr hbody, ?_⟩))
    exact Content.mem_values_of_jsonSchemaBy? hjson
  · obtain ⟨response, hresponse, hjson⟩ := Option.bind_eq_some_iff.mp hresult
    obtain ⟨content, hcontent, hjson⟩ := Option.bind_eq_some_iff.mp hjson
    refine .inr (List.mem_flatMap.mpr ⟨response, Keyed.mem_values_of_get? hresponse, ?_⟩)
    exact List.mem_flatMap.mpr ⟨content, Option.mem_toList.mpr hcontent,
      Content.mem_values_of_jsonSchemaBy? hjson⟩

end

namespace Document

/-- All schemas of a document. -/
def allSchemas (document : Document) : List Schema :=
  document.operations.flatMap (·.operation.schemas) ++ (document.schemas.getD .empty).values

/-- Every reference of a document names one of its schemas. -/
def Closed (document : Document) : Prop :=
  ∀ schema ∈ document.allSchemas, ∀ name ∈ schema.references,
    name ∈ (document.schemas.getD .empty).keys

instance (document : Document) : Decidable document.Closed :=
  inferInstanceAs (Decidable (∀ schema ∈ document.allSchemas, ∀ name ∈ schema.references,
    name ∈ (document.schemas.getD .empty).keys))

end Document

namespace Client

open Output

/-! ## Types in the documentation -/

/-- A schema of an operation as the documentation of a function names it. -/
structure Mention where
  schema : Schema
  /-- Whether the mark of null belongs to the type. -/
  nullable : Bool
  typeText : String
  /-- The tag with the type. -/
  tag : String

namespace Mention

def ofArgument (parameter : Parameter) (argument : Argument) : Mention :=
  ⟨parameter.schema, parameter.schema.nullable, argument.typeText, argument.tag⟩

def ofPayload (schema : Schema) (payload : Payload) : Mention :=
  ⟨schema, schema.nullable, payload.typeText, payload.tag⟩

def ofReply (schema : Schema) (reply : Reply) : Mention :=
  ⟨schema, reply.nullable, reply.returnType, reply.tag⟩

/-- The tag of a mention begins with its type. -/
def Tagged (mention : Mention) : Prop :=
  (∃ rest, mention.tag = "@param \x7b" ++ mention.typeText ++ "\x7d " ++ rest) ∨
    ∃ rest, mention.tag = "@returns \x7bPromise<" ++ mention.typeText ++ ">\x7d" ++ rest

/-- The documentation of a function says the type of a schema. -/
structure Stated (mention : Mention) (function : ClientFunction) : Prop where
  typeText : mention.typeText =
    marked (mention.schema.typeText modelsQualifier) mention.nullable
  tagged : mention.Tagged
  line : docLine mention.tag ∈ docBlock function

end Mention

/-- The types in the documentation of a function, each with the schema of the operation that it
is for. -/
def mentions (parse : List Char → Option MediaType) (operation : Operation)
    (function : ClientFunction) : List Mention :=
  (operation.parameters.filter Argument.isSent).zipWith .ofArgument function.arguments ++
    (operation.jsonBodyBy? parse).toList.zipWith .ofPayload function.payload.toList ++
    (operation.resultBy? parse).toList.map (.ofReply · function.reply)

theorem paramTag_eq (typeText name : String) (description : Option String) :
    ∃ rest, paramTag typeText name description = "@param \x7b" ++ typeText ++ "\x7d " ++ rest :=
  ⟨name ++ docSuffix description, by rw [paramTag, String.append_assoc]⟩

namespace Mention

variable {function : ClientFunction}

theorem stated_ofArgument {argument : Argument} (h : argument ∈ function.arguments)
    {parameter : Parameter}
    (htype : argument.typeText = parameter.schema.nullableTypeText modelsQualifier) :
    (ofArgument parameter argument).Stated function where
  typeText := htype
  tagged := .inl (paramTag_eq _ _ _)
  line := by
    have hline : docLine argument.tag ∈ function.arguments.map (docLine ·.tag) :=
      List.mem_map_of_mem h
    simp only [docBlock, List.mem_append]
    exact .inl (.inl (.inr hline))

theorem stated_ofPayload {payload : Payload} (h : function.payload = some payload)
    {schema : Schema} (htype : payload.typeText = schema.nullableTypeText modelsQualifier) :
    (ofPayload schema payload).Stated function where
  typeText := htype
  tagged := .inl (paramTag_eq _ _ _)
  line := by
    have hline : docLine payload.tag ∈ function.payload.toList.map (docLine ·.tag) :=
      List.mem_map_of_mem (Option.mem_toList.mpr h)
    simp only [docBlock, List.mem_append]
    exact .inl (.inr hline)

theorem stated_ofReply {schema : Schema}
    (h : function.reply.docType = some (schema.typeText modelsQualifier)) :
    (ofReply schema function.reply).Stated function where
  typeText := by simp only [ofReply, Reply.returnType, h]
  tagged := by
    have htag : function.reply.tag = "@returns \x7bPromise<" ++ function.reply.returnType ++
        ">\x7d" ++ docSuffix function.reply.description := by
      unfold Reply.tag
      rw [h]
    exact .inr ⟨_, htag⟩
  line := by simp [docBlock, ofReply]

end Mention

theorem payload_ofOperation? (parse : List Char → Option MediaType) (operation : Operation) :
    operation.jsonBodyBy? parse = none ∧ Payload.ofOperation? parse operation = none ∨
      ∃ schema payload, operation.jsonBodyBy? parse = some schema ∧
        Payload.ofOperation? parse operation = some payload ∧
        payload.typeText = schema.nullableTypeText modelsQualifier := by
  have htypes := Payload.map_typeText_ofOperation? parse operation
  cases hbody : operation.jsonBodyBy? parse with
  | none =>
    rw [hbody] at htypes
    exact .inl ⟨rfl, Option.map_eq_none_iff.mp htypes⟩
  | some schema =>
    rw [hbody] at htypes
    obtain ⟨payload, hsome, htype⟩ := Option.map_eq_some_iff.mp htypes
    exact .inr ⟨schema, payload, rfl, hsome, htype⟩

section

variable (spell : List Char → List Char) (parse : List Char → Option MediaType) (name : String)
  (method : Method) (path : String) (operation : Operation)

/-- The documentation has a tag for everything that is sent or answered. -/
theorem schemas_mentions :
    (mentions parse operation (.ofOperation spell parse name method path operation)).map
      (·.schema) = operation.shownSchemas parse := by
  have harguments : ((operation.parameters.filter Argument.isSent).zipWith Mention.ofArgument
      (Argument.ofParameters spell (Payload.ofOperation? parse operation).isSome
        operation.parameters)).map (·.schema) =
      (operation.parameters.filter Argument.isSent).map (·.schema) := by
    have hlength := congrArg List.length (Argument.map_name_ofParameters spell
      (Payload.ofOperation? parse operation).isSome operation.parameters)
    rw [List.length_map, List.length_map] at hlength
    exact List.ext_getElem (by simp [hlength]) fun i _ _ => by simp [Mention.ofArgument]
  have hpayload : ((operation.jsonBodyBy? parse).toList.zipWith Mention.ofPayload
      (Payload.ofOperation? parse operation).toList).map (·.schema) =
        (operation.jsonBodyBy? parse).toList := by
    rcases payload_ofOperation? parse operation with
      ⟨hbody, hpayload⟩ | ⟨_, _, hbody, hpayload, -⟩ <;> rw [hbody, hpayload] <;> rfl
  have hreply : ((operation.resultBy? parse).toList.map
      (Mention.ofReply · (Reply.ofOperation parse operation))).map (·.schema) =
        (operation.resultBy? parse).toList := by
    rw [List.map_map]
    exact List.map_id _
  unfold mentions Operation.shownSchemas
  rw [List.map_append, List.map_append]
  exact congrArg₂ _ (congrArg₂ _ harguments hpayload) hreply

/-- The documentation says the type of every schema that it has a tag for. -/
theorem stated_of_mem_mentions {mention : Mention}
    (h : mention ∈
      mentions parse operation (.ofOperation spell parse name method path operation)) :
    mention.Stated (.ofOperation spell parse name method path operation) := by
  unfold mentions at h
  rw [List.mem_append, List.mem_append] at h
  rcases h with (hargument | hpayload) | hreply
  · obtain ⟨i, hi, rfl⟩ := List.mem_iff_getElem.mp hargument
    rw [List.getElem_zipWith]
    refine Mention.stated_ofArgument (List.getElem_mem _) ?_
    simp only [ClientFunction.ofOperation, Argument.ofParameters, List.getElem_zipWith]
    rfl
  · rcases payload_ofOperation? parse operation with
      ⟨hbody, -⟩ | ⟨schema, payload, hbody, hsome, htype⟩
    · rw [hbody] at hpayload
      cases hpayload
    · have hfunction :
          (ClientFunction.ofOperation spell parse name method path operation).payload =
            some payload := hsome
      rw [hbody, hfunction] at hpayload
      obtain rfl := List.mem_singleton.mp hpayload
      exact Mention.stated_ofPayload hfunction htype
  · obtain ⟨schema, hschema, rfl⟩ := List.mem_map.mp hreply
    refine Mention.stated_ofReply ?_
    rw [Option.mem_toList] at hschema
    simp only [ClientFunction.ofOperation, Reply.ofOperation, hschema]

end

/-! ## Declarations -/

variable {spell : List Char → List Char} {parse : List Char → Option MediaType}

/-- A line of a file begins the declaration of a type with the given name. -/
def DeclaredIn (file : GeneratedFile) (name : String) : Prop :=
  file.HasLine ("export interface " ++ name ++ " \x7b") ∨
    ∃ typeText, file.HasLine ("export type " ++ name ++ " = " ++ typeText ++ ";")

/-- The file with the declarations has the given name, and declares a type. -/
def Generated.Declares (generated : Generated) (fileName name : String) : Prop :=
  ∃ file, generated.models = some file ∧ file.name = fileName ∧ DeclaredIn file name

theorem declaredIn_modelsFile {declarations : List Declaration} {declaration : Declaration}
    (h : declaration ∈ declarations) (banner : String) (layout : Layout) :
    DeclaredIn (modelsFile banner layout declarations) declaration.name := by
  cases hshape : declaration.shape with
  | interface properties =>
    refine .inl (hasLine_modelsFile h ?_ banner layout)
    simp [Declaration.codeLines, hshape]
  | typeAlias typeText =>
    refine .inr ⟨typeText, hasLine_modelsFile h ?_ banner layout⟩
    simp [Declaration.codeLines, hshape]

/-- The file with the declarations has the name of the layout and declares every schema that the
document names. -/
theorem declares_generate {document : Document} {name : String}
    (h : name ∈ (document.schemas.getD .empty).keys) (preamble : Preamble) (layout : Layout)
    (source : String) :
    (generate spell parse document preamble layout source).Declares layout.modelsFile name := by
  cases hschemas : document.schemas with
  | none =>
    rw [hschemas] at h
    cases h
  | some schemas =>
    rw [hschemas] at h
    obtain ⟨⟨_, schema⟩, hentry, rfl⟩ := List.mem_map.mp h
    have hdeclaration : Declaration.ofSchema _ schema ∈ declarationsOf schemas.entries :=
      List.mem_map_of_mem hentry
    refine ⟨modelsFile (banner document source) layout (declarationsOf schemas.entries), ?_, rfl,
      declaredIn_modelsFile hdeclaration _ layout⟩
    unfold generate
    rw [hschemas]
    rfl

theorem name_of_declares {document : Document} {preamble : Preamble} {layout : Layout}
    {source fileName name : String}
    (h : (generate spell parse document preamble layout source).Declares fileName name) :
    fileName = layout.modelsFile := by
  obtain ⟨file, hfile, rfl, -⟩ := h
  obtain ⟨declarations, -, rfl⟩ := Option.map_eq_some_iff.mp hfile
  rfl

/-! ## References that lead to declarations -/

/-- A function of a module has documentation that names a schema of the document. -/
structure Refers (spell : List Char → List Char) (parse : List Char → Option MediaType)
    (document : Document) (module : ClientModule) (mention : Mention) (name : String) :
    Prop where
  module_mem : module ∈ (document.grouping spell parse).modules
  mentioned : ∃ function ∈ module.functions, ∃ placed ∈ document.operations,
    function = .ofOperation spell parse function.name placed.method placed.path
        placed.operation ∧
      mention ∈ mentions parse placed.operation function
  referred : mention.schema.referred? = some name

variable {document : Document} {module : ClientModule} {mention : Mention} {name : String}

/-- Every function of a module is for an operation, and its documentation refers to every named
schema that is sent or answered. -/
theorem exists_operation_refers (hm : module ∈ (document.grouping spell parse).modules)
    {function : ClientFunction} (hf : function ∈ module.functions) :
    ∃ placed ∈ document.operations,
      function = .ofOperation spell parse function.name placed.method placed.path
        placed.operation ∧
      ∀ schema ∈ placed.operation.shownSchemas parse, ∀ name, schema.referred? = some name →
        ∃ mention, mention.schema = schema ∧ Refers spell parse document module mention name := by
  obtain ⟨placed, hplaced, called, -, hfunction⟩ :=
    Document.mem_placements.mp (placement_of_mem_grouping hm hf)
  simp only at hfunction
  subst hfunction
  refine ⟨placed, hplaced, rfl, fun schema hschema name hname => ?_⟩
  rw [← schemas_mentions spell parse called placed.method placed.path] at hschema
  obtain ⟨mention, hmention, rfl⟩ := List.mem_map.mp hschema
  exact ⟨mention, rfl, hm, ⟨_, hf, placed, hplaced, rfl, hmention⟩, hname⟩

/-- A schema that is referred to is shown for an operation, and the documentation of a function
of the module says its type. -/
theorem stated_of_refers (h : Refers spell parse document module mention name) :
    (∃ function ∈ module.functions, mention.Stated function) ∧
      ∃ placed ∈ document.operations, mention.schema ∈ placed.operation.shownSchemas parse := by
  obtain ⟨function, hf, placed, hplaced, hfunction, hmention⟩ := h.mentioned
  rw [hfunction] at hmention
  refine ⟨⟨function, hf, ?_⟩, placed, hplaced, ?_⟩
  · rw [hfunction]
    exact stated_of_mem_mentions _ _ _ _ _ _ hmention
  · rw [← schemas_mentions spell parse function.name placed.method placed.path]
    exact List.mem_map_of_mem hmention

/-- A document that names what it refers to names every schema of its documentation. -/
theorem mem_keys_of_refers (hclosed : document.Closed)
    (h : Refers spell parse document module mention name) :
    name ∈ (document.schemas.getD .empty).keys := by
  obtain ⟨-, placed, hplaced, hshown⟩ := stated_of_refers h
  have hschema : mention.schema ∈ document.allSchemas :=
    List.mem_append_left _ (List.mem_flatMap.mpr
      ⟨placed, hplaced, Operation.mem_schemas_of_shown hshown⟩)
  exact hclosed _ hschema name (Schema.mem_references_of_referred? h.referred)

/-- The type of a named schema is its name behind the qualifier. -/
theorem typeText_of_refers (h : Refers spell parse document module mention name) :
    mention.typeText =
      marked (modelsQualifier ++ name ++ mention.schema.brackets) mention.nullable := by
  obtain ⟨⟨function, -, hstated⟩, -⟩ := stated_of_refers h
  rw [hstated.typeText, Schema.typeText_of_referred? h.referred]

/-- The documentation of a module refers to a schema in a line of its file. -/
theorem hasLine_of_refers (h : Refers spell parse document module mention name)
    (preamble : Preamble) (layout : Layout) (source : String) :
    mention.Tagged ∧ ∃ file ∈ (generate spell parse document preamble layout source).modules,
      file.name = layout.moduleFile module.name ∧ file.HasLine (docLine mention.tag) := by
  obtain ⟨⟨function, hf, hstated⟩, -⟩ := stated_of_refers h
  have hline : docLine mention.tag ∈ function.codeLines := by
    simp only [ClientFunction.codeLines, List.append_assoc]
    exact List.mem_append_left _ hstated.line
  refine ⟨hstated.tagged, moduleFile (banner document source) preamble layout module, ?_, rfl,
    hasLine_moduleFile hf hline _ preamble layout⟩
  rw [modules_generate]
  exact List.mem_map_of_mem h.module_mem

/-- The type of a mention leads to a declaration: the file that its qualifier names is the one
with the declarations, and the named schema is among them. -/
def Resolves (generated : Generated) (mention : Mention) (name : String) : Prop :=
  ∃ stem, mention.typeText =
      marked ("import('./" ++ stem ++ "')." ++ name ++ mention.schema.brackets) mention.nullable ∧
    generated.Declares (stem ++ ".d.ts") name

theorem marked_injective (nullable : Bool) {first second : String}
    (h : marked first nullable = marked second nullable) : first = second := by
  cases nullable with
  | false => exact h
  | true => exact (String.append_left_inj nullMark).mp h

/-- The qualifier leads to one file only. -/
theorem modelsFile_of_resolves {preamble : Preamble} {layout : Layout} {source : String}
    (h : Refers spell parse document module mention name)
    (hresolves :
      Resolves (generate spell parse document preamble layout source) mention name) :
    layout.modelsFile = "Models.d.ts" := by
  obtain ⟨stem, htype, hdeclares⟩ := hresolves
  rw [typeText_of_refers h] at htype
  have hqualifier : "import('./" ++ "Models" ++ "')." = "import('./" ++ stem ++ "')." :=
    (String.append_left_inj _).mp ((String.append_left_inj _).mp (marked_injective _ htype))
  have hstem : "Models" = stem :=
    (String.append_right_inj _).mp ((String.append_left_inj _).mp hqualifier)
  rw [← name_of_declares hdeclares, ← hstem]
  rfl

/-- What a run shows of the named schemas of a document: every one that a function sends or answers
is in the documentation of its module, and the tags of that documentation stand in the file of the
module. -/
structure ReferencesShown (spell : List Char → List Char)
    (parse : List Char → Option MediaType) (document : Document) (layout : Layout)
    (generated : Generated) : Prop where
  complete : ∀ module ∈ (document.grouping spell parse).modules, ∀ function ∈ module.functions,
    ∃ placed ∈ document.operations,
      function = .ofOperation spell parse function.name placed.method placed.path
        placed.operation ∧
      ∀ schema ∈ placed.operation.shownSchemas parse, ∀ name, schema.referred? = some name →
        ∃ mention, mention.schema = schema ∧ Refers spell parse document module mention name
  shown : ∀ module mention name, Refers spell parse document module mention name →
    mention.Tagged ∧ ∃ file ∈ generated.modules,
      file.name = layout.moduleFile module.name ∧ file.HasLine (docLine mention.tag)

/-- A run shows all named schemas that its functions send or answer. In a document that names what
it refers to, all of them lead to declarations exactly if the file with the declarations is named as
the qualifier has it, or there are none. -/
theorem references_resolve_iff (spell : List Char → List Char)
    (parse : List Char → Option MediaType) (hclosed : document.Closed) (preamble : Preamble)
    (layout : Layout) (source : String) :
    ReferencesShown spell parse document layout
      (generate spell parse document preamble layout source) ∧
    ((∀ module mention name, Refers spell parse document module mention name →
        Resolves (generate spell parse document preamble layout source) mention name) ↔
      layout.modelsFile = "Models.d.ts" ∨
        ∀ module mention name, ¬ Refers spell parse document module mention name) := by
  refine ⟨⟨fun module hm function hf => exists_operation_refers hm hf,
    fun module mention name h => hasLine_of_refers h preamble layout source⟩, ?_, ?_⟩
  · intro hall
    by_cases hnone : ∀ module mention name, ¬ Refers spell parse document module mention name
    · exact .inr hnone
    · simp only [not_forall, not_not] at hnone
      obtain ⟨module, mention, name, h⟩ := hnone
      exact .inl (modelsFile_of_resolves h (hall module mention name h))
  · rintro (hfile | hnone) module mention name h
    · have hdeclares : (generate spell parse document preamble layout source).Declares
          layout.modelsFile name :=
        declares_generate (mem_keys_of_refers hclosed h) preamble layout source
      rw [hfile] at hdeclares
      exact ⟨"Models", typeText_of_refers h, hdeclares⟩
    · exact absurd h (hnone module mention name)

/-! ## Pets -/

/-- An operation that answers a list of pets. -/
def listPets : Operation :=
  { responses := .ofList
      [("200", { content := some (.ofList [("application/json", .array (.reference "Pet"))]) })] }

/-- A document with one operation and one schema. -/
def petDocument : Document :=
  { paths := some (.ofList [("/pets/list", .ofList [(.get, listPets)])])
    schemas := some (.ofList
      [("Pet", .object [("name", .primitive "string"), ("kin", .array (.reference "Pet"))])]) }

theorem refers_petDocument :
    ∃ module mention, Refers Text.latin MediaType.ofText? petDocument module mention "Pet" := by
  have hmodules : (petDocument.grouping Text.latin MediaType.ofText?).modules ≠ [] := by
    decide +kernel
  obtain ⟨module, hm⟩ := List.exists_mem_of_ne_nil _ hmodules
  obtain ⟨function, hf⟩ := List.exists_mem_of_ne_nil _ (functions_ne_nil hm)
  obtain ⟨placed, hplaced, -, hshown⟩ := exists_operation_refers hm hf
  have hoperations : petDocument.operations = [⟨"/pets/list", .get, listPets⟩] := rfl
  rw [hoperations, List.mem_singleton] at hplaced
  subst hplaced
  obtain ⟨mention, -, hrefers⟩ := hshown (.array (.reference "Pet")) (by
    have hanswer : listPets.shownSchemas MediaType.ofText? = [.array (.reference "Pet")] := rfl
    rw [hanswer]
    exact List.mem_singleton_self _) "Pet" rfl
  exact ⟨module, mention, hrefers⟩

theorem references_resolve_pets :
    let refers := Refers Text.latin MediaType.ofText? petDocument
    petDocument.Closed ∧ (∃ module mention, refers module mention "Pet") ∧
      ∀ module mention name, refers module mention name →
        Resolves (generate Text.latin MediaType.ofText? petDocument {} {} "api.json") mention
          name := by
  intro refers
  have hclosed : petDocument.Closed := by decide +kernel
  exact ⟨hclosed, refers_petDocument,
    (references_resolve_iff Text.latin MediaType.ofText? hclosed {} {} "api.json").2.mpr
      (.inl rfl)⟩

/-- Another name for the file with the declarations is accepted, and the qualifier does not follow
it. -/
theorem references_not_always_resolve :
    ∃ settings, Command.Settings.ofWishes
        { input := "api.json", output := "out", modelsFile := "Types.d.ts" } = .ok settings ∧
      petDocument.Closed ∧ ∃ module mention,
        Refers Text.latin MediaType.ofText? petDocument module mention "Pet" ∧
          ¬ Resolves (generate Text.latin MediaType.ofText? petDocument settings.preamble
            settings.layout "api.json") mention "Pet" := by
  refine ⟨_, rfl, by decide +kernel, ?_⟩
  obtain ⟨module, mention, hrefers⟩ := refers_petDocument
  refine ⟨module, mention, hrefers, fun hresolves => ?_⟩
  have hfile := modelsFile_of_resolves hrefers hresolves
  exact absurd hfile (by decide)

end Client

end OpenApiClient
