import OpenApiClient.Text.Utf8
import OpenApiClient.Yaml.Problem

/-!
# The characters of YAML

Which characters a text may hold, the classes that its grammar speaks of, and the reading of a
text from bytes. Past its end a text is taken to hold the character NUL, which it cannot hold
otherwise.
-/
namespace OpenApiClient.Yaml

/-- The characters that a text may hold. -/
def isAllowed (c : Char) : Bool :=
  let n := c.toNat
  n = 0x09 || n = 0x0A || n = 0x0D || (0x20 ≤ n && n ≤ 0x7E) || n = 0x85 ||
    (0xA0 ≤ n && n ≤ 0xFFFD) || 0x10000 ≤ n

def isEnd (c : Char) : Bool := c = '\x00'

/-- A space or a tab. -/
def isBlank (c : Char) : Bool := c = ' ' || c = '\t'

/-- The characters that end a line. -/
def isBreak (c : Char) : Bool :=
  c = '\r' || c = '\n' || c.toNat = 0x85 || c.toNat = 0x2028 || c.toNat = 0x2029

def isBreakOrEnd (c : Char) : Bool := isBreak c || isEnd c

def isBlankOrEnd (c : Char) : Bool := isBlank c || isBreakOrEnd c

/-- The characters of names. -/
def isWord (c : Char) : Bool := c.isAlphanum || c = '_' || c = '-'

/-- The mark that may stand at the start of a line. -/
def isByteOrderMark (c : Char) : Bool := c.toNat = 0xFEFF

/-- The value of a hexadecimal digit. -/
def hexValue? (c : Char) : Option Nat :=
  if '0' ≤ c ∧ c ≤ '9' then some (c.toNat - 0x30)
  else if 'A' ≤ c ∧ c ≤ 'F' then some (c.toNat - 0x37)
  else if 'a' ≤ c ∧ c ≤ 'f' then some (c.toNat - 0x57)
  else none

/-- The problem with bytes that form no character, after `offset` others. -/
def problemOfBytes (offset : Nat) : Text.Utf8.Fault → Problem
  | .lead => { fault := .leadingByte, offset := offset }
  | .incomplete => { fault := .incompleteSequence, offset := offset }
  | .continuation more => { fault := .trailingByte, offset := offset + more }
  | .overlong => { fault := .sequenceLength, offset := offset }
  | .range => { fault := .invalidCharacter, offset := offset }

/-- The characters of the bytes from `start` on, after those in `read`. `fuel` bounds their
number. -/
def charactersFrom (bytes : ByteArray) : Nat → Nat → Array Char → Except Problem (Array Char)
  | 0, _, read => .ok read
  | fuel + 1, start, read =>
    if bytes.size ≤ start then .ok read
    else
      match Text.Utf8.charAt bytes start bytes.size with
      | .error fault => .error (problemOfBytes start fault)
      | .ok (c, length) =>
        if isAllowed c then charactersFrom bytes fuel (start + length) (read.push c)
        else .error { fault := .controlCharacter, offset := start }

/-- The characters of a text. -/
def characters (bytes : ByteArray) : Except Problem (Array Char) :=
  charactersFrom bytes bytes.size 0 #[]

end OpenApiClient.Yaml
