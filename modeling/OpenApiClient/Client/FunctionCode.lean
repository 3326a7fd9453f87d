import OpenApiClient.Client.Code
import OpenApiClient.Client.Function
import OpenApiClient.Client.Grouping
import OpenApiClient.Naming.PropertyKey

/-!
# Code of functions

The code of a client function, part by part: its documentation, its head, the address, the
call, the check for an error, the check for an empty answer and the reading of the answer.

* `docBlock`: the documentation, which its descriptions cannot end early.
* `urlTemplate`: the path with every placeholder of a parameter filled in.
* `ClientFunction.code`: the whole function.
-/
namespace OpenApiClient.Client

/-! ## Documentation -/

/-- One line of a documentation block. -/
def docLine (text : String) : String :=
  let text := insideComment text
  if text = "" then " *" else " * " ++ text

/-- A description behind a dash, on one line. -/
def docSuffix (description : Option String) : String :=
  match visibleText description with
  | none => ""
  | some text =>
    " - " ++ joinedBy " " ((Text.lines text).map fun line => String.ofList (Text.trim line))

/-- The lines of the description of a function. -/
def descriptionLines (description : Option String) : List String :=
  match description with
  | none => []
  | some text =>
    if Text.trim text.toList = [] then []
    else (Text.lines text.toList).map fun line => docLine (String.ofList (Text.trimEnd line))

/-- The tag of a parameter. -/
def paramTag (typeText name : String) (description : Option String) : String :=
  "@param \x7b" ++ typeText ++ "\x7d " ++ name ++ docSuffix description

namespace Argument

def tag (argument : Argument) : String :=
  paramTag argument.typeText argument.ident argument.description

end Argument

namespace Payload

/-- The tag of the payload; its name stands in brackets if it may be left out. -/
def tag (payload : Payload) : String :=
  paramTag payload.typeText (if payload.required then payloadName else "[" ++ payloadName ++ "]")
    payload.description

end Payload

namespace Reply

/-- The type of what a function returns, once it has arrived. -/
def returnType (reply : Reply) : String :=
  match reply.docType with
  | some docType => marked docType reply.nullable
  | none => "null"

/-- The tag of the answer. -/
def tag (reply : Reply) : String :=
  "@returns \x7bPromise<" ++ reply.returnType ++ ">\x7d" ++
    match reply.docType with
    | some _ => docSuffix reply.description
    | none => ""

end Reply

/-- The documentation of a function. -/
def docBlock (function : ClientFunction) : List String :=
  ["/**"] ++ descriptionLines function.description ++
    function.arguments.map (docLine ·.tag) ++
    function.payload.toList.map (docLine ·.tag) ++
    [docLine function.reply.tag, " */"]

/-! ## Names inside the body -/

/-- The constants of the body of a function. -/
structure Locals where
  query : String
  url : String
  response : String
  /-- What has been read of the answer. -/
  decoded : String

/-- Constants whose names differ from those of the parameters. -/
def Locals.ofFunction (function : ClientFunction) : Locals :=
  let taken := function.signature
  { query := freshName taken "qs"
    url := freshName taken "url"
    response := freshName taken "response"
    decoded := freshName taken (if function.payload.isSome then "data" else "body") }

/-! ## Address -/

/-- A text as a literal part of a template. -/
def templateChars (text : List Char) : List Char :=
  Text.replaceAll '$' ['\x7b'] ['\\', '$', '\x7b']
    (Text.replaceAll '\x60' [] ['\\', '\x60'] (Text.replaceAll '\\' [] ['\\', '\\'] text))

/-- The expression that fills the placeholder of a parameter. -/
def placeholderValue (argument : Argument) : String :=
  interpolated ("encodeURIComponent(" ++ argument.ident ++ ")")

/-- A template with all placeholders of a parameter filled in. -/
def fillPlaceholder (template : List Char) (argument : Argument) : List Char :=
  Text.replaceAll '\x7b' (templateChars argument.name.toList ++ ['\x7d'])
    (placeholderValue argument).toList template

/-- The text with a slash in front of it, if it has none. -/
def rooted (text : List Char) : List Char :=
  match text with
  | '/' :: _ => text
  | _ => '/' :: text

/-- The template for the path of a function, where each path parameter in turn fills its
placeholders. -/
def urlTemplate (function : ClientFunction) : List Char :=
  function.pathArguments.foldl fillPlaceholder (rooted (templateChars function.path.toList))

/-- One property of the object that holds the query. -/
def queryEntry (argument : Argument) : String :=
  Naming.propertyKey argument.name ++ ": " ++ templateLiteral (interpolated argument.ident)

/-- The object that holds the query. -/
def queryObject (function : ClientFunction) : String :=
  "\x7b" ++ joinedBy ", " (function.queryArguments.map queryEntry) ++ "\x7d"

/-- The template literal for the address. -/
def urlLiteral (function : ClientFunction) (locals : Locals) : String :=
  templateLiteral (interpolated "BASE_URL" ++ String.ofList (urlTemplate function) ++
    if function.queryArguments = [] then "" else "?" ++ interpolated locals.query)

def urlStatement (function : ClientFunction) (locals : Locals) : List String :=
  (if function.queryArguments = [] then []
    else [tab ++ "const " ++ locals.query ++ " = new URLSearchParams(" ++
      queryObject function ++ ");"]) ++
    [tab ++ "const " ++ locals.url ++ " = " ++ urlLiteral function locals ++ ";"]

/-! ## Call and answer -/

def fetchStatement (function : ClientFunction) (locals : Locals) : List String :=
  let method := tab ++ tab ++ "method: '" ++ function.method.token ++ "'"
  [tab ++ "const " ++ locals.response ++ " = await fetch(" ++ locals.url ++ ", \x7b"] ++
    (if function.payload.isSome then
      [method ++ ",",
        tab ++ tab ++ "headers: \x7b 'Content-Type': 'application/json' \x7d,",
        tab ++ tab ++ "body: JSON.stringify(" ++ payloadName ++ ")"]
    else [method]) ++
    [tab ++ "\x7d);"]

def errorCheck (locals : Locals) : List String :=
  [tab ++ "if (!" ++ locals.response ++ ".ok) \x7b",
    tab ++ tab ++ "const message = await extractErrorMessage(" ++ locals.response ++ ");",
    tab ++ tab ++ "throw new Error(message);",
    tab ++ "\x7d"]

/-- The early return where there may be no content. -/
def emptyCheck (function : ClientFunction) (locals : Locals) : List String :=
  if function.reply.noContent then
    ["",
      tab ++ "if (" ++ locals.response ++ ".status == 204) \x7b",
      tab ++ tab ++ "return null;",
      tab ++ "\x7d"]
  else []

/-- Reads the answer with a method of the response and returns `result`. -/
def decodeWith (locals : Locals) (reader result : String) : List String :=
  [tab ++ "const " ++ locals.decoded ++ " = await " ++ locals.response ++ "." ++ reader ++ "();",
    tab ++ "return " ++ result ++ ";"]

def returnStatement (function : ClientFunction) (locals : Locals) : List String :=
  match function.reply.decoding with
  | .text => decodeWith locals "text" locals.decoded
  | .number => decodeWith locals "text" ("+" ++ locals.decoded)
  | .boolean => decodeWith locals "text" ("/^true$/i.test(" ++ locals.decoded ++ ")")
  | .json => decodeWith locals "json" locals.decoded
  | .nothing => [tab ++ "return null;"]

/-- The head of a function. -/
def functionHead (function : ClientFunction) : String :=
  "export async function " ++ function.name ++ "(" ++ joinedBy ", " function.signature ++ ") \x7b"

namespace ClientFunction

/-- The lines of a function. -/
def codeLines (function : ClientFunction) : List String :=
  let locals := Locals.ofFunction function
  docBlock function ++ [functionHead function] ++ urlStatement function locals ++ [""] ++
    fetchStatement function locals ++ [""] ++ errorCheck locals ++ emptyCheck function locals ++
    [""] ++ returnStatement function locals ++ ["\x7d"]

/-- The code of a function. -/
def code (function : ClientFunction) : String := codeOf function.codeLines

end ClientFunction

namespace ClientModule

/-- The code of all functions of a module, with a blank line between every two. -/
def code (module : ClientModule) : String := joinedBy "\n" (module.functions.map (·.code))

end ClientModule

end OpenApiClient.Client
