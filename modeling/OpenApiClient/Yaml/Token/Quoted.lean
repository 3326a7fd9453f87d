import OpenApiClient.Yaml.Cursor

/-!
# Quoted scalars

Scalars between quotes. Between single quotes a quote is written twice; between double quotes a
backslash begins an escape, and before a line end it joins two lines.
-/
namespace OpenApiClient.Yaml

/-- The character that an escape of one letter stands for. -/
def shortEscape? (c : Char) : Option Char :=
  [('0', '\x00'), ('a', '\x07'), ('b', '\x08'), ('t', '\t'), ('\t', '\t'), ('n', '\n'),
    ('v', '\x0b'), ('f', '\x0c'), ('r', '\r'), ('e', '\x1b'), (' ', ' '), ('\x22', '\x22'),
    ('/', '/'), ('\\', '\\'), ('N', Char.ofNat 0x85), ('_', Char.ofNat 0xA0),
    ('L', Char.ofNat 0x2028), ('P', Char.ofNat 0x2029)].lookup c

/-- How many digits follow the letter of an escape by number. -/
def escapeLength? (c : Char) : Option Nat := [('x', 2), ('u', 4), ('U', 8)].lookup c

/-- The number that the next `count` digits write, `offset` characters ahead. -/
def hexNumber (start : Mark) : Nat → Nat → Nat → Scan Nat
  | 0, _, value => pure value
  | count + 1, offset, value => do
    match hexValue? (← charAhead offset) with
    | some digit => hexNumber start count (offset + 1) (value * 16 + digit)
    | none => failScan .escape start .noHexNumber

/-- The character of an escape whose backslash comes next. -/
def escapedChar (start : Mark) : Scan Char := do
  let letter ← charAhead 1
  match shortEscape? letter, escapeLength? letter with
  | some c, _ =>
    advance 2
    pure c
  | none, some length =>
    advance 2
    let value ← hexNumber start length 0 0
    if !value.isValidChar then failScan .escape start .invalidEscapeCode
    advance length
    pure (Char.ofNat value)
  | none, none => failScan .escape start .unknownEscape

/-- The characters up to a blank, a line end or the closing quote, and whether an escaped line
break stopped them. -/
def quotedWord (quote : Char) (start : Mark) : Nat → List Char → Scan (List Char × Bool)
  | 0, word => pure (word, false)
  | fuel + 1, word => do
    let c ← nextChar
    let next ← charAhead 1
    if isBlankOrEnd c then pure (word, false)
    else if quote = '\x27' && c = quote && next = quote then
      advance 2
      quotedWord quote start fuel (quote :: word)
    else if c = quote then pure (word, false)
    else if quote = '\x22' && c = '\\' then
      if isBreak next then
        advance 1
        let _ ← takeBreak
        pure (word, true)
      else
        let escaped ← escapedChar start
        quotedWord quote start fuel (escaped :: word)
    else
      advance 1
      quotedWord quote start fuel (c :: word)

/-- The blanks and line breaks that come next. -/
def quotedGap : Nat → Gap → Scan Gap
  | 0, gap => pure gap
  | fuel + 1, gap => do
    let c ← nextChar
    if isBlank c then
      advance 1
      quotedGap fuel (gap.withBlank c)
    else if isBreak c then
      let kept ← takeBreak
      quotedGap fuel (gap.withBreak kept)
    else pure gap

/-- The text up to the closing quote; its last characters stand first in `text`. -/
def quotedText (quote : Char) (start : Mark) : Nat → List Char → Scan (List Char)
  | 0, text => pure text
  | fuel + 1, text => do
    if ← atDocumentMarker then failScan .quotedScalar start .documentIndicator
    if isEnd (← nextChar) then failScan .quotedScalar start .endOfStream
    let (text, joined) ← quotedWord quote start (← charsLeft) text
    if (← nextChar) = quote then pure text
    else
      let gap ← quotedGap (← charsLeft) { broken := joined }
      quotedText quote start fuel (gap.folded.reverse ++ text)

/-- The token of a quoted scalar. -/
def quotedToken (quote : Char) : Scan Token := do
  let start ← currentMark
  advance 1
  let text ← quotedText quote start (← charsLeft) []
  advance 1
  let style := if quote = '\x27' then .singleQuoted else .doubleQuoted
  return ⟨.scalar (String.ofList text.reverse) style, start, ← currentMark⟩

end OpenApiClient.Yaml
