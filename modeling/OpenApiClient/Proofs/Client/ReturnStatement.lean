import OpenApiClient.Client.FunctionCode
import OpenApiClient.Proofs.Client.FreshName
import OpenApiClient.Text.Latin

/-!
# How the code of a function ends

Behind the call a function reads the answer and returns it, and a brace ends it. The lines in front
of the brace tell how the answer is read: as the text of a scalar, as JSON, or not at all.

A function reads an answer by the type expression of its schema. A named schema has its name for a
type expression, so a name can be taken for a scalar.

Results:
* `readsScalar_iff`, `readsJson_iff`, `returnsNull_iff`: the last lines tell how the answer is read.
* `ofTypeText?_typeText`: which schemas have the type expression of a scalar.
* `readsByShape_iff`: scalars and nothing else are read from text, exactly if the answer is no
  schema that is named like a scalar.
-/
namespace OpenApiClient

namespace Client

/-! ## The last lines -/

/-- The code of a function ends with the given lines and the brace behind them. -/
def EndsWith (function : ClientFunction) (lines : List String) : Prop :=
  lines ++ ["\x7d"] <:+ function.codeLines

/-- What is returned for a scalar whose text has been read. -/
def scalarResult (text : String) : Scalar → String
  | .string => text
  | .number => "+" ++ text
  | .boolean => "/^true$/i.test(" ++ text ++ ")"

/-- The answer is read as text, and the text as a scalar. -/
def ReadsScalar (function : ClientFunction) (scalar : Scalar) : Prop :=
  let locals := Locals.ofFunction function
  EndsWith function (decodeWith locals "text" (scalarResult locals.decoded scalar))

/-- The answer is read as JSON. -/
def ReadsJson (function : ClientFunction) : Prop :=
  let locals := Locals.ofFunction function
  EndsWith function (decodeWith locals "json" locals.decoded)

/-- The code ends with a return of null. -/
def ReturnsNull (function : ClientFunction) : Prop :=
  EndsWith function [tab ++ "return null;"]

/-- The code ends with the check for an empty answer and the return statement. -/
theorem codeLines_eq (function : ClientFunction) :
    let locals := Locals.ofFunction function
    ∃ front, function.codeLines = front ++ emptyCheck function locals ++
      ("" :: returnStatement function locals ++ ["\x7d"]) := by
  intro locals
  refine ⟨docBlock function ++ [functionHead function] ++ urlStatement function locals ++ [""] ++
    fetchStatement function locals ++ [""] ++ errorCheck locals, ?_⟩
  simp [ClientFunction.codeLines, locals]

theorem returnStatement_ne_nil (function : ClientFunction) (locals : Locals) :
    returnStatement function locals ≠ [] := by
  unfold returnStatement
  split <;> exact List.cons_ne_nil _ _

/-- One line or two stand at the end if they are the last ones of the return statement and the blank
line in front of it. -/
theorem endsWith_iff {function : ClientFunction} {lines : List String} (h : lines.length ≤ 2) :
    EndsWith function lines ↔
      lines <:+ "" :: returnStatement function (Locals.ofFunction function) := by
  obtain ⟨front, hcode⟩ := codeLines_eq function
  have hne := List.length_pos_iff.mpr
    (returnStatement_ne_nil function (Locals.ofFunction function))
  unfold EndsWith
  rw [hcode]
  constructor
  · intro hends
    have hlast := List.suffix_of_suffix_length_le hends (List.suffix_append _ _) (by
      simp only [List.length_append, List.length_cons, List.length_nil]; omega)
    obtain ⟨rest, hrest⟩ := hlast
    rw [← List.append_assoc] at hrest
    exact ⟨rest, List.append_cancel_right hrest⟩
  · rintro ⟨rest, hrest⟩
    rw [← hrest]
    exact ⟨front ++ emptyCheck function (Locals.ofFunction function) ++ rest,
      by simp only [List.append_assoc]⟩

section

variable {locals : Locals} {reader result : String}

theorem decodeWith_suffix_iff {reader' result' : String} :
    decodeWith locals reader result <:+ "" :: decodeWith locals reader' result' ↔
      reader = reader' ∧ result = result' := by
  unfold decodeWith
  simp [List.suffix_cons_iff]

theorem not_decodeWith_suffix_null :
    ¬ decodeWith locals reader result <:+ ["", tab ++ "return null;"] := by
  unfold decodeWith
  simp [List.suffix_cons_iff]

theorem null_suffix_decodeWith_iff :
    [tab ++ "return null;"] <:+ "" :: decodeWith locals reader result ↔ result = "null" := by
  have hnull : tab ++ "return null;" = tab ++ "return " ++ "null" ++ ";" := by decide
  have hlines : [tab ++ "return null;"] <:+ "" :: decodeWith locals reader result ↔
      tab ++ "return null;" = tab ++ "return " ++ result ++ ";" := by
    unfold decodeWith
    simp [List.suffix_cons_iff]
  rw [hlines, hnull, String.append_left_inj, String.append_right_inj]
  exact eq_comm

end

/-! ## How the answer is read -/

/-- The way in which a scalar is read. -/
def Decoding.ofScalar : Scalar → Decoding
  | .string => .text
  | .number => .number
  | .boolean => .boolean

theorem Decoding.ofScalar_injective : Function.Injective ofScalar := by
  intro first second h
  cases first <;> cases second <;> first | rfl | cases h

/-- An answer is read as a scalar, as JSON or not at all. -/
theorem Decoding.eq_ofScalar_or (decoding : Decoding) :
    (∃ scalar, decoding = ofScalar scalar) ∨ decoding = .json ∨ decoding = .nothing := by
  cases decoding with
  | text => exact .inl ⟨.string, rfl⟩
  | number => exact .inl ⟨.number, rfl⟩
  | boolean => exact .inl ⟨.boolean, rfl⟩
  | json => exact .inr (.inl rfl)
  | nothing => exact .inr (.inr rfl)

theorem scalarResult_injective (text : String) : Function.Injective (scalarResult text) := by
  have hplus : "+".length = 1 := rfl
  have htest : "/^true$/i.test(".length = 15 := rfl
  intro first second h
  have hlength := congrArg String.length h
  cases first <;> cases second <;>
    simp only [scalarResult, String.length_append, hplus, htest] at hlength ⊢ <;> omega

/-- The first character of what is returned for a scalar is not that of null. -/
theorem scalarResult_ne_null (function : ClientFunction) (scalar : Scalar) :
    scalarResult (Locals.ofFunction function).decoded scalar ≠ "null" := by
  intro h
  have hhead := congrArg (·.toList.head?) h
  cases scalar with
  | string =>
    have hname : (Locals.ofFunction function).decoded =
        freshName function.signature (if function.payload.isSome then "data" else "body") := rfl
    rw [scalarResult, hname, head_freshName _ (by split <;> decide)] at hhead
    split at hhead <;> exact absurd hhead (by decide)
  | number => simp [scalarResult] at hhead
  | boolean => simp [scalarResult] at hhead

section

variable {function : ClientFunction}

theorem returnStatement_ofScalar {scalar : Scalar}
    (h : function.reply.decoding = .ofScalar scalar) (locals : Locals) :
    returnStatement function locals =
      decodeWith locals "text" (scalarResult locals.decoded scalar) := by
  unfold returnStatement
  rw [h]
  cases scalar <;> rfl

theorem returnStatement_json (h : function.reply.decoding = .json) (locals : Locals) :
    returnStatement function locals = decodeWith locals "json" locals.decoded := by
  unfold returnStatement
  rw [h]

theorem returnStatement_nothing (h : function.reply.decoding = .nothing) (locals : Locals) :
    returnStatement function locals = [tab ++ "return null;"] := by
  unfold returnStatement
  rw [h]

end

theorem readsScalar_iff (function : ClientFunction) (scalar : Scalar) :
    ReadsScalar function scalar ↔ function.reply.decoding = .ofScalar scalar := by
  unfold ReadsScalar
  simp only
  rw [endsWith_iff (by simp [decodeWith])]
  rcases function.reply.decoding.eq_ofScalar_or with ⟨other, h⟩ | h | h
  · rw [returnStatement_ofScalar h, decodeWith_suffix_iff, h,
      (scalarResult_injective _).eq_iff, Decoding.ofScalar_injective.eq_iff]
    simp [eq_comm]
  · rw [returnStatement_json h, decodeWith_suffix_iff, h]
    cases scalar <;> simp [Decoding.ofScalar]
  · rw [returnStatement_nothing h, h]
    cases scalar <;> simp [Decoding.ofScalar, not_decodeWith_suffix_null]

theorem readsJson_iff (function : ClientFunction) :
    ReadsJson function ↔ function.reply.decoding = .json := by
  unfold ReadsJson
  simp only
  rw [endsWith_iff (by simp [decodeWith])]
  rcases function.reply.decoding.eq_ofScalar_or with ⟨other, h⟩ | h | h
  · rw [returnStatement_ofScalar h, decodeWith_suffix_iff, h]
    cases other <;> simp [Decoding.ofScalar]
  · rw [returnStatement_json h, decodeWith_suffix_iff, h]
    simp
  · rw [returnStatement_nothing h, h]
    simp [not_decodeWith_suffix_null]

theorem returnsNull_iff (function : ClientFunction) :
    ReturnsNull function ↔ function.reply.decoding = .nothing := by
  unfold ReturnsNull
  rw [endsWith_iff (by decide)]
  rcases function.reply.decoding.eq_ofScalar_or with ⟨other, h⟩ | h | h
  · rw [returnStatement_ofScalar h, null_suffix_decodeWith_iff, h]
    cases other <;> simp [Decoding.ofScalar, scalarResult_ne_null]
  · rw [returnStatement_json h, null_suffix_decodeWith_iff, h]
    have hne : (Locals.ofFunction function).decoded ≠ "null" :=
      scalarResult_ne_null function .string
    simp [hne]
  · rw [returnStatement_nothing h, h]
    simp

/-! ## Schemas and scalars -/

end Client

/-- The type names under which a document knows a scalar. -/
def Scalar.names : Scalar → List String
  | .string => ["string"]
  | .number => ["number", "integer"]
  | .boolean => ["boolean"]

namespace Schema

/-- The schema is a primitive of a type under which the scalar is known. -/
def IsScalar (schema : Schema) (scalar : Scalar) : Prop :=
  ∃ typeName ∈ scalar.names, ∃ notes, schema = .primitive typeName notes

/-- The schema refers to a named schema that is called like the scalar. -/
def NamedLike (schema : Schema) (scalar : Scalar) : Prop :=
  ∃ name ∈ scalar.names, ∃ notes, schema = .reference name notes

end Schema

theorem Scalar.ofTypeText?_eq_some_iff {typeText : String} {scalar : Scalar} :
    ofTypeText? typeText = some scalar ↔ typeText ∈ scalar.names := by
  unfold ofTypeText?
  cases scalar <;> simp only [names, List.mem_cons, List.not_mem_nil, or_false] <;> grind

/-- No scalar is known under a name that ends in brackets. -/
theorem Scalar.brackets_notMem (text : String) (scalar : Scalar) : text ++ "[]" ∉ scalar.names := by
  have hlast : ∀ name ∈ scalar.names, name.toList.getLast? ≠ some ']' := by
    cases scalar <;> decide
  intro h
  exact hlast _ h (by simp)

theorem primitiveType_mem_names_iff (typeName : String) (scalar : Scalar) :
    primitiveType typeName ∈ scalar.names ↔ typeName ∈ scalar.names := by
  unfold primitiveType
  split
  · rename_i h
    subst h
    cases scalar <;> decide
  · exact Iff.rfl

/-- A schema has the type expression of a scalar if it is that scalar, or has its name. -/
theorem Schema.ofTypeText?_typeText (schema : Schema) (scalar : Scalar) :
    Scalar.ofTypeText? (schema.typeText "") = some scalar ↔
      schema.IsScalar scalar ∨ schema.NamedLike scalar := by
  rw [Scalar.ofTypeText?_eq_some_iff]
  unfold IsScalar NamedLike
  cases schema with
  | primitive typeName notes =>
    simp [typeText, primitiveType_mem_names_iff]
  | array items notes =>
    simp [typeText, Scalar.brackets_notMem]
  | object properties notes =>
    cases scalar <;> simp [typeText, Scalar.names]
  | reference name notes =>
    simp [typeText]

/-- A named schema is no scalar, whatever its name. -/
theorem Schema.IsScalar.not_namedLike {schema : Schema} {scalar other : Scalar}
    (h : schema.IsScalar scalar) : ¬ schema.NamedLike other := by
  rintro ⟨name, -, notes, hreference⟩
  obtain ⟨typeName, -, typeNotes, hprimitive⟩ := h
  exact Schema.noConfusion (hprimitive.symm.trans hreference)

namespace Client

/-! ## How an operation is answered -/

theorem Decoding.ofTypeText_eq (typeText : String) :
    ofTypeText typeText = (Scalar.ofTypeText? typeText).elim .json ofScalar := by
  unfold ofTypeText
  split <;> rename_i h <;> rw [h] <;> rfl

theorem decoding_ofOperation {parse : List Char → Option MediaType} {operation : Operation}
    {schema : Schema} (h : operation.resultBy? parse = some schema)
    (spell : List Char → List Char) (name : String) (method : Method) (path : String) :
    (ClientFunction.ofOperation spell parse name method path operation).reply.decoding =
      .ofTypeText (schema.typeText "") := by
  simp only [ClientFunction.ofOperation, Reply.ofOperation, h]

/-- An answer is read from text exactly if its schema is a scalar, and as JSON exactly if it is
anything else. -/
def ReadsByShape (function : ClientFunction) (schema : Schema) : Prop :=
  ((∃ scalar, ReadsScalar function scalar) ↔ ∃ scalar, schema.IsScalar scalar) ∧
    (ReadsJson function ↔ ¬ ∃ scalar, schema.IsScalar scalar)

section

variable {parse : List Char → Option MediaType} {operation : Operation} {schema : Schema}
  (h : operation.resultBy? parse = some schema) (spell : List Char → List Char) (name : String)
  (method : Method) (path : String)
include h

theorem readsScalar_ofOperation (scalar : Scalar) :
    ReadsScalar (.ofOperation spell parse name method path operation) scalar ↔
      schema.IsScalar scalar ∨ schema.NamedLike scalar := by
  rw [readsScalar_iff, decoding_ofOperation h, Decoding.ofTypeText_eq,
    ← Schema.ofTypeText?_typeText]
  cases Scalar.ofTypeText? (schema.typeText "") with
  | none => cases scalar <;> simp [Decoding.ofScalar]
  | some other => simp [Decoding.ofScalar_injective.eq_iff]

theorem readsJson_ofOperation :
    ReadsJson (.ofOperation spell parse name method path operation) ↔
      ∀ scalar, ¬ (schema.IsScalar scalar ∨ schema.NamedLike scalar) := by
  rw [readsJson_iff, decoding_ofOperation h, Decoding.ofTypeText_eq]
  simp only [← Schema.ofTypeText?_typeText]
  cases Scalar.ofTypeText? (schema.typeText "") with
  | none => simp
  | some other => cases other <;> simp [Decoding.ofScalar]

end

/-- An answer is read from the text of a scalar if its schema is that scalar or refers to a schema
that is called like it, and as JSON if there is no such scalar. So the shape decides, exactly if the
schema does not refer to one that is called like a scalar. -/
theorem readsByShape_iff (spell : List Char → List Char)
    {parse : List Char → Option MediaType} (name : String) (method : Method) (path : String)
    {operation : Operation} {schema : Schema} (h : operation.resultBy? parse = some schema) :
    let function := ClientFunction.ofOperation spell parse name method path operation
    (∀ scalar, ReadsScalar function scalar ↔
        schema.IsScalar scalar ∨ schema.NamedLike scalar) ∧
      (ReadsJson function ↔ ∀ scalar, ¬ (schema.IsScalar scalar ∨ schema.NamedLike scalar)) ∧
      (ReadsByShape function schema ↔ ∀ scalar, ¬ schema.NamedLike scalar) := by
  intro function
  have hscalar := readsScalar_ofOperation h spell name method path
  have hjson := readsJson_ofOperation h spell name method path
  refine ⟨hscalar, hjson, ?_⟩
  unfold ReadsByShape
  rw [hjson]
  simp only [function, hscalar]
  constructor
  · rintro ⟨htext, -⟩ scalar hnamed
    obtain ⟨other, hother⟩ := htext.mp ⟨scalar, .inr hnamed⟩
    exact hother.not_namedLike hnamed
  · intro hnone
    simp [hnone]

/-- An operation that answers JSON of one schema. -/
def answering (schema : Schema) : Operation :=
  { responses := .ofList [("200", { content := some (.ofList [("application/json", schema)]) })] }

/-- The schema is answered if its content type denotes JSON, as it does. -/
theorem resultBy?_answering {parse : List Char → Option MediaType}
    (hjson : isJsonContentTypeBy parse "application/json") (schema : Schema) :
    (answering schema).resultBy? parse = some schema := by
  have hcontent : Content.jsonSchemaBy? parse (.ofList [("application/json", schema)]) =
      some schema := by
    simp [Content.jsonSchemaBy?, Keyed.ofList, putAll, put, hjson]
  have hresponse : (answering schema).responses.get? "200" =
      some { content := some (.ofList [("application/json", schema)]) } := rfl
  unfold Operation.resultBy?
  rw [hresponse]
  exact hcontent

theorem isJson_applicationJson :
    isJsonContentTypeBy MediaType.ofText? "application/json" := by decide +kernel

/-- A list is read as JSON, also if its items are called like a scalar. -/
theorem readsByShape_iff_list :
    let schema := Schema.array (.reference "string")
    let function := ClientFunction.ofOperation Text.latin MediaType.ofText? "list" .get
      "/pets/list" (answering schema)
    (answering schema).resultBy? MediaType.ofText? = some schema ∧ ReadsByShape function schema ∧
      ReadsJson function := by
  intro schema function
  have hresult := resultBy?_answering isJson_applicationJson schema
  obtain ⟨-, hjson, hshape⟩ := readsByShape_iff Text.latin "list" .get "/pets/list" hresult
  have hnamed : ∀ scalar, ¬ schema.NamedLike scalar := fun _ ⟨_, _, _, h⟩ => nomatch h
  have hscalar : ∀ scalar, ¬ schema.IsScalar scalar := fun _ ⟨_, _, _, h⟩ => nomatch h
  exact ⟨hresult, hshape.mpr hnamed,
    hjson.mpr fun scalar h => h.elim (hscalar scalar) (hnamed scalar)⟩

/-- An object that is called `integer` is read as a number. -/
theorem shape_not_always_read :
    let schema := Schema.reference "integer"
    let function := ClientFunction.ofOperation Text.latin MediaType.ofText? "find" .get
      "/pets/find" (answering schema)
    (answering schema).resultBy? MediaType.ofText? = some schema ∧ ReadsScalar function .number ∧
      ¬ ReadsByShape function schema := by
  intro schema function
  have hresult := resultBy?_answering isJson_applicationJson schema
  have hnamed : schema.NamedLike .number := ⟨"integer", by decide, {}, rfl⟩
  have htext : ReadsScalar function .number :=
    (readsScalar_ofOperation hresult _ _ _ _ _).mpr (.inr hnamed)
  refine ⟨hresult, htext, fun hshape => ?_⟩
  obtain ⟨other, hother⟩ := hshape.1.mp ⟨_, htext⟩
  exact hother.not_namedLike hnamed

end Client

end OpenApiClient
