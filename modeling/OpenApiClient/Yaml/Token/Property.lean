import OpenApiClient.Yaml.Cursor

/-!
# Tokens of properties

Directives, and what may stand before a value: its anchor and its tag.
-/
namespace OpenApiClient.Yaml

def textOfChars (chars : List Char) : String := String.ofList chars

/-! ## Tags -/

/-- How many bytes a character has whose first byte is given. -/
def octetCount (first : Nat) : Nat :=
  if first < 0x80 then 1
  else if 0xC0 ≤ first && first < 0xE0 then 2
  else if 0xE0 ≤ first && first < 0xF0 then 3
  else if 0xF0 ≤ first && first < 0xF8 then 4
  else 0

/-- A byte that is written as a percent sign and two digits. -/
def octet (activity : Activity) (start : Mark) : Scan Nat := do
  match (← nextChar), hexValue? (← charAhead 1), hexValue? (← charAhead 2) with
  | '%', some high, some low => pure (high * 16 + low)
  | _, _, _ => failScan activity start .noOctet

/-- The further bytes of a character. -/
def furtherOctets (activity : Activity) (start : Mark) : Nat → Scan (List Char)
  | 0 => pure []
  | more + 1 => do
    let byte ← octet activity start
    if byte < 0x80 || 0xC0 ≤ byte then failScan activity start .trailingOctet
    advance 3
    return Char.ofNat byte :: (← furtherOctets activity start more)

/-- The bytes of a character that is written by its bytes. -/
def octets (activity : Activity) (start : Mark) : Scan (List Char) := do
  let first ← octet activity start
  if octetCount first = 0 then failScan activity start .leadingOctet
  advance 3
  return Char.ofNat first :: (← furtherOctets activity start (octetCount first - 1))

/-- The characters of a tag; some of them only where no flow collection can be meant. -/
def isTagChar (verbatim : Bool) (c : Char) : Bool :=
  isWord c || ";/?:@&=+$.%!~*\x27()".toList.contains c ||
    (verbatim && (c = ',' || c = '[' || c = ']'))

def tagCharsFrom (verbatim : Bool) (activity : Activity) (start : Mark) :
    Nat → List Char → Scan (List Char)
  | 0, taken => pure taken
  | fuel + 1, taken => do
    let c ← nextChar
    if !isTagChar verbatim c then pure taken
    else if c = '%' then
      tagCharsFrom verbatim activity start fuel (taken ++ (← octets activity start))
    else
      advance 1
      tagCharsFrom verbatim activity start fuel (taken ++ [c])

/-- The rest of a tag, of which `head` has been read as if it were a handle. -/
def tagRest (verbatim directive : Bool) (head : List Char) (start : Mark) :
    Scan (List Char) := do
  let activity := if directive then .tagDirectiveUri else .tagUri
  let rest ← tagCharsFrom verbatim activity start (← charsLeft) []
  if head.isEmpty && rest.isEmpty then failScan activity start .noTagUri
  pure (head.drop 1 ++ rest)

/-- The handle of a tag, or the start of a tag that may be one. -/
def tagHandle (directive : Bool) (start : Mark) : Scan (List Char) := do
  if (← nextChar) ≠ '!' then
    failScan (if directive then .tagDirectiveHandle else .tag) start .noExclamation
  advance 1
  let name ← takeChars isWord
  if (← nextChar) = '!' then
    advance 1
    pure ('!' :: name ++ ['!'])
  else if directive && !name.isEmpty then
    failScan .tagDirectiveHandleEnd start .noExclamation
  else pure ('!' :: name)

/-- A tag between angle brackets. -/
def verbatimTag (start : Mark) : Scan TokenKind := do
  advance 2
  let uri ← tagRest true false [] start
  if (← nextChar) ≠ '>' then failScan .tag start .noAngle
  advance 1
  pure (.tag "" (textOfChars uri))

/-- A tag with a handle or without. -/
def shortTag (start : Mark) : Scan TokenKind := do
  let handle ← tagHandle false start
  if 1 < handle.length && handle.getLast? = some '!' then
    return .tag (textOfChars handle) (textOfChars (← tagRest false false [] start))
  else
    let suffix ← tagRest false false handle start
    pure (if suffix.isEmpty then .tag "" "!" else .tag "!" (textOfChars suffix))

/-- The token of a tag. -/
def tagToken : Scan Token := do
  let start ← currentMark
  let kind ← if (← charAhead 1) = '<' then verbatimTag start else shortTag start
  let c ← nextChar
  if !isBlankOrEnd c && !((← get).inFlow && c = ',') then
    failScan .tag start .noBlankOrLineBreak
  return ⟨kind, start, ← currentMark⟩

/-! ## Anchors -/

/-- The characters besides blanks that may follow a name. -/
def endsName (c : Char) : Bool := isBlankOrEnd c || "?:,]\x7d%@\x60".toList.contains c

/-- The token of an anchor or of a reference to one. -/
def anchorToken (activity : Activity) (kind : String → TokenKind) : Scan Token := do
  let start ← currentMark
  advance 1
  let name ← takeChars isWord
  let stop ← currentMark
  if name.isEmpty || !endsName (← nextChar) then failScan activity start .noName
  pure ⟨kind (textOfChars name), start, stop⟩

/-! ## Directives -/

def numberOfDigits (digits : List Char) : Nat :=
  digits.foldl (fun value digit => value * 10 + (digit.toNat - 0x30)) 0

/-- The digits up to the first other character, at most nine. -/
def versionDigits (start : Mark) : Nat → List Char → Scan (List Char)
  | 0, digits => do
    if (← nextChar).isDigit then failScan .versionDirective start .longVersion
    pure digits
  | fuel + 1, digits => do
    let c ← nextChar
    if c.isDigit then
      advance 1
      versionDigits start fuel (digits ++ [c])
    else pure digits

def versionNumber (start : Mark) : Scan Nat := do
  let digits ← versionDigits start 9 []
  if digits.isEmpty then failScan .versionDirective start .noVersion
  pure (numberOfDigits digits)

/-- The two numbers of a version. -/
def versionValue (start : Mark) : Scan TokenKind := do
  skipChars isBlank
  let major ← versionNumber start
  if (← nextChar) ≠ '.' then failScan .versionDirective start .noDigitOrPoint
  advance 1
  return .version major (← versionNumber start)

/-- A handle and what it stands for. -/
def tagDirectiveValue (start : Mark) : Scan TokenKind := do
  skipChars isBlank
  let handle ← tagHandle true start
  if !isBlank (← nextChar) then failScan .tagDirective start .noBlank
  skipChars isBlank
  let uri ← tagRest true true [] start
  if !isBlankOrEnd (← nextChar) then failScan .tagDirective start .noBlankOrLineBreak
  pure (.tagDirective (textOfChars handle) (textOfChars uri))

/-- The token of a directive. -/
def directiveToken : Scan Token := do
  let start ← currentMark
  advance 1
  let name ← takeChars isWord
  if name.isEmpty then failScan .directive start .noDirectiveName
  if !isBlankOrEnd (← nextChar) then failScan .directive start .notAlphabetical
  let kind ←
    if name = ['Y', 'A', 'M', 'L'] then versionValue start
    else if name = ['T', 'A', 'G'] then tagDirectiveValue start
    else failScan .directive start .unknownDirective
  let stop ← currentMark
  skipLineRest .directive start
  pure ⟨kind, start, stop⟩

end OpenApiClient.Yaml
