/-!
# Media types

The content types under which bodies are described: a type, a subtype with an optional suffix,
and parameters. A text that is no media type names none.

* `MediaType.ofText?`: the reading of media types that the command uses.
* `isJsonContentTypeBy`: which content types denote JSON, for any reading of media types.
-/
namespace OpenApiClient

/-- The characters of a name after its first one. -/
def isNameChar (c : Char) : Bool :=
  c.isAlphanum || "!#$&-^_.+%*\x27".toList.contains c

/-- Whether a text is a name: at most 127 characters, the first a letter, a digit or a star. -/
def isName : List Char → Bool
  | [] => false
  | first :: rest =>
    (first.isAlphanum || first == '*') && rest.all isNameChar && rest.length < 127

/-- A media type without its parameters. -/
structure MediaType where
  kind : List Char
  subtype : List Char
  suffix : Option (List Char)
deriving DecidableEq, Repr

namespace MediaType

def isGap (c : Char) : Bool := c == ' ' || c == '\t'

/-- What follows a quoted text, where `text` follows its first quote. -/
def afterQuoted : List Char → Option (List Char)
  | [] => none
  | '\x22' :: rest => some rest
  | '\\' :: _ :: rest => afterQuoted rest
  | _ :: rest => afterQuoted rest

/-- What follows an equals sign and a value, which is quoted or a run of name characters. -/
def afterValue : List Char → Option (List Char)
  | '=' :: '\x22' :: rest => afterQuoted rest
  | '=' :: rest => some (rest.dropWhile isNameChar)
  | _ => none

/-- What follows one parameter, a name and a value with an equals sign between them. -/
def afterParameter (text : List Char) : Option (List Char) :=
  let name := text.takeWhile isNameChar
  if isName name then afterValue (text.drop name.length) else none

/-- Whether a text is a list of parameters, each after a semicolon. A last semicolon may stand
alone. `fuel` bounds the number of parameters. -/
def areParameters : Nat → List Char → Bool
  | 0, _ => false
  | fuel + 1, text =>
    match text.dropWhile isGap with
    | [] => true
    | ';' :: rest =>
      match rest.dropWhile isGap with
      | [] => true
      | parameter =>
        match afterParameter parameter with
        | some more => areParameters fuel more
        | none => false
    | _ => false

/-- Subtype and suffix: what stands before and after the last plus sign. A plus sign at the end
starts no suffix. -/
def splitSuffix (run : List Char) : List Char × Option (List Char) :=
  let after := (run.reverse.takeWhile (· ≠ '+')).reverse
  if after.length = run.length ∨ after = [] then (run, none)
  else (run.take (run.length - after.length - 1), some after)

/-- Whether a suffix, if there is one, is a name behind its first character. -/
def suffixFits : Option (List Char) → Bool
  | some suffix => isName suffix.tail
  | none => true

/-- The media type of the given type with what follows the slash. -/
def ofRest? (kind rest : List Char) : Option MediaType :=
  let run := rest.takeWhile isNameChar
  let parameters := rest.drop run.length
  let parts := splitSuffix run
  let endsOpen := run.getLast? = some '+'
  if isName kind && isName parts.1 && suffixFits parts.2 && !endsOpen &&
      areParameters (parameters.length + 1) parameters then
    some ⟨kind, parts.1, parts.2⟩
  else none

/-- The media type that a text names. -/
def ofText? (text : List Char) : Option MediaType :=
  let kind := text.takeWhile (· ≠ '/')
  match text.drop kind.length with
  | [] => none
  | _ :: rest => ofRest? kind rest

/-- Whether a media type denotes JSON: by its type and subtype, or by its suffix. -/
def denotesJson (media : MediaType) : Bool :=
  (media.kind == "application".toList && media.subtype == "json".toList) ||
    media.suffix == some "json".toList

end MediaType

/-- Whether a content type denotes JSON, where `parse` finds the media type that a text names.
Letter case counts. -/
def isJsonContentTypeBy (parse : List Char → Option MediaType) (contentType : String) : Bool :=
  match parse contentType.toList with
  | some media => media.denotesJson
  | none => false

end OpenApiClient
