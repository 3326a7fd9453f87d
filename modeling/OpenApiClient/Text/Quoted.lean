import OpenApiClient.Text.HiddenTable

/-!
# Quoted texts

Two ways to write a text between double quotes: as a JSON string, and as it is shown to the
reader of an error message.

* `quoted` escapes the quote, the backslash and the controls below U+0020, nothing else.
* `shown` names every character that would not be seen by its number.
-/
namespace OpenApiClient.Text

/-- The digit of `n < 16`, letters in lower case. -/
def hexDigit (n : Nat) : Char :=
  if n < 10 then Char.ofNat (0x30 + n) else Char.ofNat (0x57 + n)

/-- The lower-case hexadecimal digits of `n`, without leading zeros. -/
def hexDigits (n : Nat) : List Char := Nat.toDigits 16 n

/-- One character inside a JSON string. -/
def quoteChar (c : Char) : List Char :=
  match c with
  | '\x22' => ['\\', '\x22']
  | '\\' => ['\\', '\\']
  | '\x08' => ['\\', 'b']
  | '\x0c' => ['\\', 'f']
  | '\n' => ['\\', 'n']
  | '\r' => ['\\', 'r']
  | '\t' => ['\\', 't']
  | c =>
    if c.toNat < 0x20 then
      ['\\', 'u', '0', '0', hexDigit (c.toNat / 16), hexDigit (c.toNat % 16)]
    else [c]

/-- A text as a JSON string. -/
def quoted (text : List Char) : List Char :=
  '\x22' :: (text.flatMap quoteChar ++ ['\x22'])

/-- One character of a text shown in a message. -/
def showChar (c : Char) : List Char :=
  match c with
  | '\x22' => ['\\', '\x22']
  | '\\' => ['\\', '\\']
  | '\x00' => ['\\', '0']
  | '\n' => ['\\', 'n']
  | '\r' => ['\\', 'r']
  | '\t' => ['\\', 't']
  | c => if hidden.has c then ['\\', 'u', '\x7b'] ++ hexDigits c.toNat ++ ['\x7d'] else [c]

/-- A text between quotes as a message shows it. -/
def shown (text : List Char) : List Char :=
  '\x22' :: (text.flatMap showChar ++ ['\x22'])

end OpenApiClient.Text
