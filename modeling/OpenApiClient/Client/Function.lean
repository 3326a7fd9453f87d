import OpenApiClient.Client.FreshName
import OpenApiClient.Document
import OpenApiClient.Naming.Identifier

/-!
# Client functions

What is known of a function before its code is written: how it is called, what it sends and how
it reads the answer.

* `ClientFunction.ofOperation`: the function for an operation.
* `ClientFunction.signature`: the names of its parameters.

Names are made from the ASCII spelling of a text, and JSON is told by the reading of media types.
Both are left open: `spell` and `parse` below.
-/
namespace OpenApiClient.Client

/-- What stands before the name of a schema in the documentation of a function. -/
def modelsQualifier : String := "import('./Models')."

/-- The parameter that holds the value to send. -/
def payloadName : String := "body"

/-- Names from outside that the body of every function uses. -/
def bodyGlobals : List String :=
  ["BASE_URL", "JSON", "URLSearchParams", "encodeURIComponent", "extractErrorMessage", "fetch"]

/-- A parameter of a function that goes into the address. -/
structure Argument where
  /-- The name under which the value is sent. -/
  name : String
  /-- The name of the parameter in the code. -/
  ident : String
  location : Location
  typeText : String
  description : Option String
deriving DecidableEq

/-- The value that a function sends as JSON. -/
structure Payload where
  typeText : String
  required : Bool
  description : Option String
deriving DecidableEq

/-- How the answer of a successful call is read. -/
inductive Decoding where
  | text
  | number
  | boolean
  | json
  /-- No JSON answer is declared, and none is read. -/
  | nothing
deriving DecidableEq, Repr

/-- What a function answers. -/
structure Reply where
  /-- The type of the answer. -/
  model : Option String
  /-- The type of the answer as the documentation names it. -/
  docType : Option String
  description : Option String
  decoding : Decoding
  /-- Whether the answer may be that there is no content. -/
  noContent : Bool
  nullable : Bool
deriving DecidableEq

/-- A function of the client. -/
structure ClientFunction where
  name : String
  method : Method
  /-- The path with its placeholders. -/
  path : String
  description : Option String
  arguments : List Argument
  payload : Option Payload
  reply : Reply
deriving DecidableEq

/-! ## From an operation -/

/-- A scalar is read from text, everything else as JSON. -/
def Decoding.ofTypeText (typeText : String) : Decoding :=
  match Scalar.ofTypeText? typeText with
  | some .string => .text
  | some .number => .number
  | some .boolean => .boolean
  | none => .json

namespace Reply

def ofOperation (parse : List Char → Option MediaType) (operation : Operation) : Reply :=
  match operation.resultBy? parse with
  | some schema =>
    { model := some (schema.typeText "")
      docType := some (schema.typeText modelsQualifier)
      description := schema.description
      decoding := Decoding.ofTypeText (schema.typeText "")
      noContent := operation.mayBeEmpty
      nullable := operation.mayBeNull }
  | none =>
    { model := none
      docType := none
      description := none
      decoding := .nothing
      noContent := operation.mayBeEmpty
      nullable := operation.mayBeNull }

end Reply

namespace Payload

def ofOperation? (parse : List Char → Option MediaType) (operation : Operation) :
    Option Payload := do
  let body ← operation.requestBody
  let schema ← body.content.jsonSchemaBy? parse
  pure ⟨schema.nullableTypeText modelsQualifier, body.required, body.description⟩

end Payload

/-- The name wanted for the `index`-th parameter: its function name, or a numbered name if
nothing of it is left. -/
def wantedName (spell : List Char → List Char) (index : Nat) (name : String) : String :=
  let ident := Naming.functionNameBy spell name
  if ident = "" then "arg" ++ toString index else ident

namespace Argument

/-- Whether a parameter is part of the address; headers and cookies are not. -/
def isSent (parameter : Parameter) : Bool := parameter.location ≠ .other

/-- The names that no parameter may have. -/
def reserved (hasPayload : Bool) : List String :=
  if hasPayload then payloadName :: bodyGlobals else bodyGlobals

def ofParameter (parameter : Parameter) (ident : String) : Argument :=
  { name := parameter.name
    ident := ident
    location := parameter.location
    typeText := parameter.schema.nullableTypeText modelsQualifier
    description := parameter.description }

/-- The arguments for the parameters of an operation, with names that differ from each other
and from the names that the body of the function uses. -/
def ofParameters (spell : List Char → List Char) (hasPayload : Bool)
    (parameters : List Parameter) : List Argument :=
  let sent := parameters.filter isSent
  let wanted := sent.mapIdx fun index parameter => wantedName spell index parameter.name
  sent.zipWith ofParameter (freshNames (reserved hasPayload) wanted)

end Argument

namespace ClientFunction

/-- The function called `name` for an operation. -/
def ofOperation (spell : List Char → List Char) (parse : List Char → Option MediaType)
    (name : String) (method : Method) (path : String) (operation : Operation) :
    ClientFunction :=
  let payload := Payload.ofOperation? parse operation
  { name := name
    method := method
    path := path
    description := operation.description
    arguments := Argument.ofParameters spell payload.isSome operation.parameters
    payload := payload
    reply := Reply.ofOperation parse operation }

/-- The names of the parameters, the payload last. -/
def signature (function : ClientFunction) : List String :=
  function.arguments.map (·.ident) ++
    if function.payload.isSome then [payloadName] else []

def queryArguments (function : ClientFunction) : List Argument :=
  function.arguments.filter (·.location = .query)

def pathArguments (function : ClientFunction) : List Argument :=
  function.arguments.filter (·.location = .path)

end ClientFunction

end OpenApiClient.Client
