/-!
# Problems in YAML texts

What can be wrong with a YAML text, what was being read then, and where: a mark counts
characters, lines and columns from zero, and messages count lines and columns from one.
-/
namespace OpenApiClient.Yaml

/-- A position in a text. -/
structure Mark where
  index : Nat := 0
  line : Nat := 0
  column : Nat := 0
deriving DecidableEq, Repr, Inhabited

namespace Mark

/-- Whether a mark is at the start of the text, which messages do not mention. -/
def isStart (mark : Mark) : Bool := mark.line = 0 && mark.column = 0

/-- What stands behind a message about a mark. -/
def text (mark : Mark) : String :=
  if mark.isStart then ""
  else " at line " ++ toString (mark.line + 1) ++ " column " ++ toString (mark.column + 1)

end Mark

/-- What is wrong. -/
inductive Fault where
  | controlCharacter
  | leadingByte
  | incompleteSequence
  | trailingByte
  | sequenceLength
  | invalidCharacter
  | noColon
  | strayCharacter
  | entryNotAllowed
  | keyNotAllowed
  | valueNotAllowed
  | unknownDirective
  | noLineBreak
  | noDirectiveName
  | notAlphabetical
  | noDigitOrPoint
  | longVersion
  | noVersion
  | noBlank
  | noBlankOrLineBreak
  | noName
  | noExclamation
  | noAngle
  | noTagUri
  | noOctet
  | leadingOctet
  | trailingOctet
  | zeroIndentation
  | tabInIndentation
  | tabBeforeIndentation
  | documentIndicator
  | endOfStream
  | unknownEscape
  | noHexNumber
  | invalidEscapeCode
  | unexpectedColon
  | noDocumentStart
  | undefinedHandle
  | noNode
  | noDash
  | noKey
  | noCommaOrBracket
  | noCommaOrBrace
  | repeatedVersion
  | incompatibleVersion
  | repeatedHandle
deriving DecidableEq, Repr

def Fault.message : Fault → String
  | controlCharacter => "control characters are not allowed"
  | leadingByte => "invalid leading UTF-8 octet"
  | incompleteSequence => "incomplete UTF-8 octet sequence"
  | trailingByte => "invalid trailing UTF-8 octet"
  | sequenceLength => "invalid length of a UTF-8 sequence"
  | invalidCharacter => "invalid Unicode character"
  | noColon => "could not find expected ':'"
  | strayCharacter => "found character that cannot start any token"
  | entryNotAllowed => "block sequence entries are not allowed in this context"
  | keyNotAllowed => "mapping keys are not allowed in this context"
  | valueNotAllowed => "mapping values are not allowed in this context"
  | unknownDirective => "found unknown directive name"
  | noLineBreak => "did not find expected comment or line break"
  | noDirectiveName => "could not find expected directive name"
  | notAlphabetical => "found unexpected non-alphabetical character"
  | noDigitOrPoint => "did not find expected digit or '.' character"
  | longVersion => "found extremely long version number"
  | noVersion => "did not find expected version number"
  | noBlank => "did not find expected whitespace"
  | noBlankOrLineBreak => "did not find expected whitespace or line break"
  | noName => "did not find expected alphabetic or numeric character"
  | noExclamation => "did not find expected '!'"
  | noAngle => "did not find the expected '>'"
  | noTagUri => "did not find expected tag URI"
  | noOctet => "did not find URI escaped octet"
  | leadingOctet => "found an incorrect leading UTF-8 octet"
  | trailingOctet => "found an incorrect trailing UTF-8 octet"
  | zeroIndentation => "found an indentation indicator equal to 0"
  | tabInIndentation => "found a tab character where an indentation space is expected"
  | tabBeforeIndentation => "found a tab character that violates indentation"
  | documentIndicator => "found unexpected document indicator"
  | endOfStream => "found unexpected end of stream"
  | unknownEscape => "found unknown escape character"
  | noHexNumber => "did not find expected hexdecimal number"
  | invalidEscapeCode => "found invalid Unicode character escape code"
  | unexpectedColon => "found unexpected ':'"
  | noDocumentStart => "did not find expected <document start>"
  | undefinedHandle => "found undefined tag handle"
  | noNode => "did not find expected node content"
  | noDash => "did not find expected '-' indicator"
  | noKey => "did not find expected key"
  | noCommaOrBracket => "did not find expected ',' or ']'"
  | noCommaOrBrace => "did not find expected ',' or '\x7d'"
  | repeatedVersion => "found duplicate %YAML directive"
  | incompatibleVersion => "found incompatible YAML document"
  | repeatedHandle => "found duplicate %TAG directive"

/-- What is being read. -/
inductive Activity where
  | simpleKey
  | nextToken
  | directive
  | versionDirective
  | tagDirective
  | tagDirectiveHandle
  | tagDirectiveHandleEnd
  | tagDirectiveUri
  | anchorName
  | aliasName
  | tag
  | tagUri
  | blockScalar
  | quotedScalar
  | escape
  | plainScalar
  | node
  | blockNode
  | flowNode
  | blockCollection
  | blockMapping
  | flowSequence
  | flowMapping
deriving DecidableEq, Repr

def Activity.message : Activity → String
  | simpleKey => "while scanning a simple key"
  | nextToken => "while scanning for the next token"
  | directive => "while scanning a directive"
  | versionDirective => "while scanning a %YAML directive"
  | tagDirective => "while scanning a %TAG directive"
  | tagDirectiveHandle => "while scanning a tag directive"
  | tagDirectiveHandleEnd => "while parsing a tag directive"
  | tagDirectiveUri => "while parsing a %TAG directive"
  | anchorName => "while scanning an anchor"
  | aliasName => "while scanning an alias"
  | tag => "while scanning a tag"
  | tagUri => "while parsing a tag"
  | blockScalar => "while scanning a block scalar"
  | quotedScalar => "while scanning a quoted scalar"
  | escape => "while parsing a quoted scalar"
  | plainScalar => "while scanning a plain scalar"
  | node => "while parsing a node"
  | blockNode => "while parsing a block node"
  | flowNode => "while parsing a flow node"
  | blockCollection => "while parsing a block collection"
  | blockMapping => "while parsing a block mapping"
  | flowSequence => "while parsing a flow sequence"
  | flowMapping => "while parsing a flow mapping"

/-- Why a text is no YAML. -/
structure Problem where
  fault : Fault
  mark : Mark := {}
  /-- For bytes that are no text, how many stand before them. -/
  offset : Nat := 0
  /-- What was being read, and where that begins. -/
  context : Option (Activity × Mark) := none
deriving DecidableEq, Repr

namespace Problem

/-- Where the fault is. -/
def place (problem : Problem) : String :=
  if problem.mark.isStart && problem.offset ≠ 0 then
    " at position " ++ toString problem.offset
  else problem.mark.text

def contextText (problem : Problem) : String :=
  match problem.context with
  | none => ""
  | some (activity, mark) =>
    ", " ++ activity.message ++
      if mark.line = problem.mark.line && mark.column = problem.mark.column then ""
      else mark.text

def message (problem : Problem) : String :=
  problem.fault.message ++ problem.place ++ problem.contextText

end Problem

end OpenApiClient.Yaml
