import OpenApiClient.Json.Cursor
import OpenApiClient.Text.Utf8

/-!
# JSON strings

Reading a string whose opening quote is already behind the reader, either to keep its text or
only to pass it. A string that is passed may hold ill-formed bytes and lone surrogates.
-/
namespace OpenApiClient.Json

/-- The value of a hexadecimal digit. -/
def hexValue? (byte : UInt8) : Option Nat :=
  if 0x30 ≤ byte && byte ≤ 0x39 then some (byte.toNat - 0x30)
  else if 0x41 ≤ byte && byte ≤ 0x46 then some (byte.toNat - 0x37)
  else if 0x61 ≤ byte && byte ≤ 0x66 then some (byte.toNat - 0x57)
  else none

/-- The number that hexadecimal digits write, `value` being written by those before them. -/
def hexNumber? : Nat → List UInt8 → Option Nat
  | value, [] => some value
  | value, byte :: rest => (hexValue? byte).bind fun digit => hexNumber? (value * 16 + digit) rest

/-- The four hexadecimal digits of an escape. -/
def hexEscape : Reader Nat := do
  let context ← read
  let position ← get
  if context.bytes.size < position + 4 then
    set context.bytes.size
    fail .endInText
  else
    set (position + 4)
    match hexNumber? 0 (context.bytes.extract position (position + 4)).toList with
    | some unit => pure unit
    | none => fail .invalidEscape

/-- The next byte of a string, which must not end here. -/
def nextInText : Reader UInt8 := do
  match ← next with
  | some byte => pure byte
  | none => fail .endInText

def isLeading (unit : Nat) : Bool := 0xD800 ≤ unit && unit < 0xDC00

def isTrailing (unit : Nat) : Bool := 0xDC00 ≤ unit && unit < 0xE000

/-- The character that two surrogates stand for. -/
def pairedChar (leading trailing : Nat) : Char :=
  Char.ofNat ((leading - 0xD800) * 0x400 + (trailing - 0xDC00) + 0x10000)

/-- A byte between two surrogates, which must be the given one. -/
def betweenSurrogates (c : Char) : Reader Unit := do
  if (← nextInText) ≠ byteOf c then fail .endOfEscape

/-- The character of a numbered escape; a leading surrogate needs a second escape. -/
def unicodeEscape : Reader Char := do
  let unit ← hexEscape
  if isTrailing unit then fail .loneSurrogate
  else if isLeading unit then
    betweenSurrogates '\\'
    betweenSurrogates 'u'
    let second ← hexEscape
    if isTrailing second then pure (pairedChar unit second) else fail .loneSurrogate
  else pure (Char.ofNat unit)

/-- The character that the letter of a short escape stands for. -/
def shortEscape? (byte : UInt8) : Option Char :=
  [('\x22', '\x22'), ('\\', '\\'), ('/', '/'), ('b', '\x08'), ('f', '\x0c'), ('n', '\n'),
    ('r', '\r'), ('t', '\t')].lookup (Char.ofNat byte.toNat)

/-- The character of an escape whose backslash is behind the reader. -/
def escapedChar : Reader Char := do
  let byte ← nextInText
  if byte = byteOf 'u' then unicodeEscape
  else
    match shortEscape? byte with
    | some c => pure c
    | none => fail .invalidEscape

/-- Whether a byte of a string stands for itself. -/
def isPlainByte (byte : UInt8) : Bool :=
  0x20 ≤ byte && byte ≠ byteOf '\x22' && byte ≠ byteOf '\\'

/-- The bytes that stand for themselves as text, or where they are ill-formed. -/
def plainRun : Reader (Except Nat (List Char)) := do
  let context ← read
  let start ← get
  skipWhile isPlainByte (← fuelLeft)
  pure (Text.Utf8.decode context.bytes start (← get))

/-- What has been read of a text: its last characters first, or where it is ill-formed. -/
def extended (text run : Except Nat (List Char)) : Except Nat (List Char) := do
  let read ← text
  let more ← run
  pure (more.reverse ++ read)

/-- The rest of a string after `text`. Ill-formed bytes are noticed at the closing quote. -/
def restOfText : Nat → Except Nat (List Char) → Reader String
  | 0, _ => fail .endInText
  | fuel + 1, text => do
    let text := extended text (← plainRun)
    match ← peek with
    | none => fail .endInText
    | some byte =>
      skipByte
      if byte = byteOf '\x22' then
        match text with
        | .ok text => pure (String.ofList text.reverse)
        | .error position => failAt (position + 1) .invalidCodePoint
      else if byte = byteOf '\\' then
        let c ← escapedChar
        restOfText fuel (text.map (c :: ·))
      else fail .controlCharacter

/-- The text of a string. -/
def readText : Reader String := do restOfText (← fuelLeft) (.ok [])

/-- Passes an escape whose backslash is behind the reader. -/
def skipEscape : Reader Unit := do
  let byte ← nextInText
  if byte = byteOf 'u' then
    let _ ← hexEscape
  else if (shortEscape? byte).isNone then fail .invalidEscape

def skipRestOfText : Nat → Reader Unit
  | 0 => fail .endInText
  | fuel + 1 => do
    skipWhile isPlainByte (← fuelLeft)
    match ← peek with
    | none => fail .endInText
    | some byte =>
      if byte = byteOf '\x22' then skipByte
      else if byte = byteOf '\\' then
        skipByte
        skipEscape
        skipRestOfText fuel
      else fail .controlCharacter

/-- Passes a string. -/
def skipText : Reader Unit := do skipRestOfText (← fuelLeft)

end OpenApiClient.Json
