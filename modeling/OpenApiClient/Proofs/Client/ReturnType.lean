import OpenApiClient.Proofs.Client.Comment
import OpenApiClient.Proofs.Client.ReturnStatement

/-!
# The documented type of an answer

The tag of the answer names a type. A function can return null in three ways: early, where there is
no content; at its end, where no JSON answer is declared; and as the value that it has read, where
the schema of the answer allows null.

Results:
* `returnsEarly_iff`: an early return stands in the code exactly if there may be no content.
* `nullDocumented_iff`: the documented type has room for null in the first two ways always, and in
  the third only if a response without content is declared too, or the type expression of the schema
  has null in it by itself.
-/
namespace OpenApiClient.Client

/-! ## The early return -/

/-- The line that asks whether there is no content. -/
def statusCheck (locals : Locals) : String :=
  tab ++ "if (" ++ locals.response ++ ".status == 204) \x7b"

/-- The lines that return early where there is no content. -/
def earlyReturn (locals : Locals) : List String :=
  [statusCheck locals, tab ++ tab ++ "return null;", tab ++ "\x7d"]

/-- The code of a function returns early where there is no content. -/
def ReturnsEarly (function : ClientFunction) : Prop :=
  earlyReturn (Locals.ofFunction function) <:+: function.codeLines

/-- What a line has behind its indentation begins as a condition does. -/
def BeginsCondition (line : String) : Prop := line.toList[2]? = some 'i'

section

variable (function : ClientFunction) (locals : Locals)

theorem docBlock_noCondition : ∀ line ∈ docBlock function, ¬ BeginsCondition line := by
  have hdoc : ∀ text, ¬ BeginsCondition (docLine text) := by
    intro text
    unfold docLine BeginsCondition
    simp only
    split <;> simp
  obtain ⟨texts, htexts⟩ := docBlock_eq_map function
  intro line hline
  rw [htexts, List.mem_cons, List.mem_append, List.mem_map, List.mem_singleton] at hline
  rcases hline with rfl | ⟨text, -, rfl⟩ | rfl
  · simp [BeginsCondition]
  · exact hdoc text
  · simp [BeginsCondition]

theorem functionHead_noCondition : ¬ BeginsCondition (functionHead function) := by
  have hhead : ∃ rest, functionHead function = "export async function " ++ rest := by
    unfold functionHead
    exact ⟨_, by rw [String.append_assoc, String.append_assoc, String.append_assoc]⟩
  obtain ⟨rest, hrest⟩ := hhead
  unfold BeginsCondition
  rw [hrest, String.toList_append, List.getElem?_append_left (by decide)]
  decide

theorem urlStatement_noCondition :
    ∀ line ∈ urlStatement function locals, ¬ BeginsCondition line := by
  unfold urlStatement
  split <;> simp [BeginsCondition, tab]

theorem fetchStatement_noCondition :
    ∀ line ∈ fetchStatement function locals, ¬ BeginsCondition line := by
  unfold fetchStatement
  simp only
  split <;> simp [BeginsCondition, tab]

theorem returnStatement_noCondition :
    ∀ line ∈ returnStatement function locals, ¬ BeginsCondition line := by
  unfold returnStatement decodeWith
  split <;> simp [BeginsCondition, tab]

theorem beginsCondition_statusCheck : BeginsCondition (statusCheck locals) := by
  simp [BeginsCondition, statusCheck, tab]

/-- The check for an error begins as a condition too, but it is another one. -/
theorem statusCheck_notMem_errorCheck : statusCheck locals ∉ errorCheck locals := by
  have hbegins := beginsCondition_statusCheck locals
  unfold errorCheck
  simp only [List.mem_cons, List.not_mem_nil, or_false]
  rintro (h | h | h | h)
  · have hlength := congrArg (·.toList.length) h
    simp [statusCheck, tab] at hlength
  all_goals
    rw [h] at hbegins
    simp [BeginsCondition, tab] at hbegins

end

/-- Where the answer cannot be empty, no line asks for the status. -/
theorem noContent_of_mem {function : ClientFunction}
    (h : statusCheck (Locals.ofFunction function) ∈ function.codeLines) :
    function.reply.noContent := by
  by_contra hcontent
  have hempty : emptyCheck function (Locals.ofFunction function) = [] := if_neg hcontent
  -- The third character rules out every line but those that check for an error.
  have hother : ∀ lines : List String, (∀ line ∈ lines, ¬ BeginsCondition line) →
      statusCheck (Locals.ofFunction function) ∉ lines :=
    fun lines hlines hm => hlines _ hm (beginsCondition_statusCheck _)
  have hblank := hother [""] (by simp [BeginsCondition])
  have hbrace := hother ["\x7d"] (by simp [BeginsCondition])
  have hhead := hother [functionHead function]
    (List.forall_mem_singleton.mpr (functionHead_noCondition function))
  have hdoc := hother _ (docBlock_noCondition function)
  have hurl := hother _ (urlStatement_noCondition function (Locals.ofFunction function))
  have hfetch := hother _ (fetchStatement_noCondition function (Locals.ofFunction function))
  have herror := statusCheck_notMem_errorCheck (Locals.ofFunction function)
  have hreturn := hother _ (returnStatement_noCondition function (Locals.ofFunction function))
  unfold ClientFunction.codeLines at h
  simp only [hempty, List.append_nil, List.mem_append, hdoc, hhead, hurl, hblank, hfetch, herror,
    hreturn, hbrace, or_false] at h

theorem returnsEarly_iff (function : ClientFunction) :
    ReturnsEarly function ↔ function.reply.noContent := by
  unfold ReturnsEarly
  constructor
  · intro h
    exact noContent_of_mem (h.subset List.mem_cons_self)
  · intro h
    have hcheck : emptyCheck function (Locals.ofFunction function) =
        "" :: earlyReturn (Locals.ofFunction function) := if_pos h
    obtain ⟨front, hcode⟩ := codeLines_eq function
    rw [hcode, hcheck]
    refine ⟨front ++ [""],
      "" :: returnStatement function (Locals.ofFunction function) ++ ["\x7d"], ?_⟩
    simp only [List.append_assoc, List.cons_append, List.nil_append]

/-! ## Types with room for null -/

/-- A type expression has room for null. -/
def AdmitsNull (typeText : String) : Prop :=
  typeText = "null" ∨ nullMark.toList <:+ typeText.toList

theorem admitsNull_marked (typeText : String) (nullable : Bool) :
    AdmitsNull (marked typeText nullable) ↔ nullable ∨ AdmitsNull typeText := by
  cases nullable with
  | false => simp [marked]
  | true => simp [marked, AdmitsNull]

/-- What the tag of an answer says behind the type. -/
def Reply.tagNote (reply : Reply) : String :=
  match reply.docType with
  | some _ => docSuffix reply.description
  | none => ""

theorem Reply.tag_eq (reply : Reply) :
    reply.tag = "@returns \x7bPromise<" ++ reply.returnType ++ ">\x7d" ++ reply.tagNote := by
  unfold tag tagNote
  cases reply.docType <;> rfl

/-- The type in the tag of the answer has room for null. -/
def DocumentsNull (function : ClientFunction) : Prop :=
  ∃ typeText, AdmitsNull typeText ∧
    function.reply.tag =
      "@returns \x7bPromise<" ++ typeText ++ ">\x7d" ++ function.reply.tagNote

theorem documentsNull_iff (function : ClientFunction) :
    DocumentsNull function ↔ AdmitsNull function.reply.returnType := by
  unfold DocumentsNull
  simp only [function.reply.tag_eq, String.append_left_inj, String.append_right_inj]
  constructor
  · rintro ⟨typeText, hnull, rfl⟩
    exact hnull
  · intro hnull
    exact ⟨_, hnull, rfl⟩

/-! ## The answers of an operation -/

theorem mayBeNull_of_mayBeEmpty {operation : Operation} (h : operation.mayBeEmpty) :
    operation.mayBeNull := by
  unfold Operation.mayBeEmpty Keyed.contains Keyed.get? at h
  rw [Option.isSome_map, List.find?_isSome] at h
  obtain ⟨⟨status, response⟩, hmem, hstatus⟩ := h
  unfold Operation.mayBeNull
  rw [List.any_eq_true]
  exact ⟨_, hmem, by simpa using .inl (of_decide_eq_true hstatus)⟩

section

variable (spell : List Char → List Char) (parse : List Char → Option MediaType) (name : String)
  (method : Method) (path : String) (operation : Operation)

theorem returnsEarly_ofOperation :
    ReturnsEarly (.ofOperation spell parse name method path operation) ↔ operation.mayBeEmpty := by
  rw [returnsEarly_iff]
  simp only [ClientFunction.ofOperation, Reply.ofOperation]
  cases operation.resultBy? parse <;> rfl

theorem returnsNull_ofOperation :
    ReturnsNull (.ofOperation spell parse name method path operation) ↔
      operation.resultBy? parse = none := by
  rw [returnsNull_iff]
  cases hresult : operation.resultBy? parse with
  | none => simp [ClientFunction.ofOperation, Reply.ofOperation, hresult]
  | some schema =>
    rw [decoding_ofOperation hresult, Decoding.ofTypeText_eq]
    cases Scalar.ofTypeText? (schema.typeText "") with
    | none => simp
    | some scalar => cases scalar <;> simp [Decoding.ofScalar]

/-- Null has room if no JSON answer is declared, if a response without content is, or if the type
expression of the answer has null in it. -/
theorem documentsNull_ofOperation :
    DocumentsNull (.ofOperation spell parse name method path operation) ↔
      ∀ schema, operation.resultBy? parse = some schema →
        operation.mayBeNull ∨ AdmitsNull (schema.typeText modelsQualifier) := by
  rw [documentsNull_iff]
  unfold Reply.returnType
  simp only [ClientFunction.ofOperation, Reply.ofOperation]
  cases operation.resultBy? parse with
  | none => simp [AdmitsNull]
  | some schema => simp [admitsNull_marked]

end

/-- A function that can return null says so: if it returns null early, or at its end, or if the
schema of the answer that it reads allows null, then the documented type has room for null. -/
def NullDocumented (parse : List Char → Option MediaType) (function : ClientFunction)
    (operation : Operation) : Prop :=
  (ReturnsEarly function ∨ ReturnsNull function ∨
      ∃ schema, operation.resultBy? parse = some schema ∧ schema.nullable) →
    DocumentsNull function

/-- A function that returns null early or at its end says so. A function that returns what it has
read says so, exactly if the schema of the answer does not allow null, or some declared response
brings no content, or the type expression of the schema has room for null by itself. -/
theorem nullDocumented_iff (spell : List Char → List Char)
    (parse : List Char → Option MediaType) (name : String) (method : Method) (path : String)
    (operation : Operation) :
    let function := ClientFunction.ofOperation spell parse name method path operation
    (ReturnsEarly function ∨ ReturnsNull function → DocumentsNull function) ∧
      (NullDocumented parse function operation ↔
        ∀ schema, operation.resultBy? parse = some schema → schema.nullable →
          operation.mayBeNull ∨ AdmitsNull (schema.typeText modelsQualifier)) := by
  intro function
  have hdocuments := documentsNull_ofOperation spell parse name method path operation
  have hcode : ReturnsEarly function ∨ ReturnsNull function → DocumentsNull function := by
    rintro (hearly | hend)
    · have hempty := (returnsEarly_ofOperation spell parse name method path operation).mp hearly
      exact hdocuments.mpr fun _ _ => .inl (mayBeNull_of_mayBeEmpty hempty)
    · have hnone := (returnsNull_ofOperation spell parse name method path operation).mp hend
      exact hdocuments.mpr fun schema hschema => nomatch hnone.symm.trans hschema
  refine ⟨hcode, ?_, ?_⟩
  · intro h schema hschema hnullable
    exact hdocuments.mp (h (.inr (.inr ⟨schema, hschema, hnullable⟩))) schema hschema
  · rintro h (hearly | hend | ⟨schema, hschema, hnullable⟩)
    · exact hcode (.inl hearly)
    · exact hcode (.inr hend)
    · refine hdocuments.mpr fun other hother => ?_
      obtain rfl := Option.some.inj (hschema.symm.trans hother)
      exact h schema hschema hnullable

/-- A list that may be null is read as JSON, so that null is returned, and documented as a list. -/
theorem null_not_always_documented :
    let schema := Schema.array (.primitive "string") ⟨true, none⟩
    let function := ClientFunction.ofOperation Text.latin MediaType.ofText? "find" .get
      "/pets/find" (answering schema)
    (answering schema).resultBy? MediaType.ofText? = some schema ∧ schema.nullable ∧
      ReadsJson function ∧ function.reply.tag = "@returns \x7bPromise<string[]>\x7d" ∧
      ¬ NullDocumented MediaType.ofText? function (answering schema) := by
  intro schema function
  have hresult := resultBy?_answering isJson_applicationJson schema
  have hjson : function.reply.decoding = .json := by
    rw [decoding_ofOperation hresult]
    decide
  have htag : function.reply.tag = "@returns \x7bPromise<string[]>\x7d" := by
    simp only [function, ClientFunction.ofOperation, Reply.ofOperation, hresult]
    decide
  refine ⟨hresult, rfl, (readsJson_iff function).mpr hjson, htag, fun h => ?_⟩
  have hdocuments := h (.inr (.inr ⟨schema, hresult, rfl⟩))
  rcases (documentsNull_ofOperation ..).mp hdocuments schema hresult with hempty | hnull
  · exact absurd hempty (by decide +kernel)
  · have hlist : ¬ ("string[]" = "null" ∨ nullMark.toList <:+ "string[]".toList) := by decide
    exact hlist hnull

end OpenApiClient.Client
