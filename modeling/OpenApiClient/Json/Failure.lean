import OpenApiClient.Written.Mismatch

/-!
# Failures of reading JSON

Why a text is refused as a document, and where: the place in the document, and the line and the
column in the text, counted in bytes.
-/
namespace OpenApiClient.Json

/-- Why a JSON text is refused. -/
inductive Cause where
  | endInValue
  | endInObject
  | endInList
  | endInText
  | noValue
  | noWord
  | noColon
  | noCommaInObject
  | noCommaInList
  | keyIsNoText
  | trailingComma
  | trailingCharacters
  | invalidNumber
  | numberOutOfRange
  | invalidEscape
  | endOfEscape
  | loneSurrogate
  | controlCharacter
  | invalidCodePoint
  | tooDeep
  | mismatch (found : Found) (expected : Shape)
  | shortRecord (count : Nat) (kind : Kind)
  | repeatedField (key : String)
  | noTypeNames
deriving DecidableEq, Repr

def Cause.message : Cause → String
  | endInValue => "EOF while parsing a value"
  | endInObject => "EOF while parsing an object"
  | endInList => "EOF while parsing a list"
  | endInText => "EOF while parsing a string"
  | noValue => "expected value"
  | noWord => "expected ident"
  | noColon => "expected \x60:\x60"
  | noCommaInObject => "expected \x60,\x60 or \x60\x7d\x60"
  | noCommaInList => "expected \x60,\x60 or \x60]\x60"
  | keyIsNoText => "key must be a string"
  | trailingComma => "trailing comma"
  | trailingCharacters => "trailing characters"
  | invalidNumber => "invalid number"
  | numberOutOfRange => "number out of range"
  | invalidEscape => "invalid escape"
  | endOfEscape => "unexpected end of hex escape"
  | loneSurrogate => "lone leading surrogate in hex escape"
  | controlCharacter =>
    "control character (\\u0000-\\u001F) found while parsing a string"
  | invalidCodePoint => "invalid unicode code point"
  | tooDeep => "recursion limit exceeded"
  | mismatch found expected => mismatchMessage (found.name "null") expected.expectation
  | shortRecord count kind => shortRecordMessage count kind
  | repeatedField key => repeatedFieldMessage key
  | noTypeNames => noTypeNamesMessage

/-- A failure while reading. -/
structure Failure where
  place : Place
  cause : Cause
  /-- How many bytes have been read when the failure is noticed; `none` until the record or list
  around it is left. -/
  position : Option Nat
deriving DecidableEq, Repr

/-- The line and the column that are reached after `position` bytes. -/
def lineAndColumn (bytes : ByteArray) (position : Nat) : Nat × Nat :=
  (bytes.extract 0 position).foldl
    (fun (line, column) byte => if byte = 0x0A then (line + 1, 0) else (line, column + 1))
    (1, 0)

/-- What stands after a message about a text. -/
def markText (line column : Nat) : String :=
  " at line " ++ toString line ++ " column " ++ toString column

/-- The message about a failure in the given text. -/
def Failure.message (bytes : ByteArray) (failure : Failure) : String :=
  let (line, column) := lineAndColumn bytes (failure.position.getD 0)
  failure.place.lead ++ failure.cause.message ++ markText line column

end OpenApiClient.Json
