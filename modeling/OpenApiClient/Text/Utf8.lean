/-!
# Bytes as text

Reading UTF-8 one character at a time, with the reason when the bytes at hand form none.
-/
namespace OpenApiClient.Text.Utf8

/-- Why a sequence of bytes does not begin with a character. -/
inductive Fault where
  /-- The first byte starts no sequence. -/
  | lead
  /-- The bytes end inside a sequence. -/
  | incomplete
  /-- The byte at `offset` in the sequence does not continue it. -/
  | continuation (offset : Nat)
  /-- The sequence is longer than its character needs. -/
  | overlong
  /-- The number is a surrogate or too large for a character. -/
  | range
deriving DecidableEq, Repr

/-- The byte at an index, 0 past the end. -/
def byteAt (bytes : ByteArray) (index : Nat) : UInt8 :=
  if h : index < bytes.size then bytes[index] else 0

/-- How many bytes the sequence has that starts with `lead`. -/
def sequenceLength (lead : UInt8) : Option Nat :=
  if lead < 0x80 then some 1
  else if 0xC0 ≤ lead && lead < 0xE0 then some 2
  else if 0xE0 ≤ lead && lead < 0xF0 then some 3
  else if 0xF0 ≤ lead && lead < 0xF8 then some 4
  else none

/-- The bits of the first byte that belong to the number, for a sequence of `length` bytes. -/
def leadBits (lead : UInt8) (length : Nat) : Nat :=
  if length = 1 then lead.toNat else lead.toNat % Nat.pow 2 (7 - length)

/-- The smallest number that needs `length` bytes. -/
def leastOf (length : Nat) : Nat :=
  match length with
  | 2 => 0x80
  | 3 => 0x800
  | 4 => 0x10000
  | _ => 0

/-- Adds the bits of the bytes from `offset` on to `value`, `more` bytes in all. -/
def continued (bytes : ByteArray) (start : Nat) : Nat → Nat → Nat → Except Fault Nat
  | 0, _, value => .ok value
  | more + 1, offset, value =>
    let byte := byteAt bytes (start + offset)
    if 0x80 ≤ byte && byte < 0xC0 then
      continued bytes start more (offset + 1) (value * 64 + byte.toNat % 64)
    else .error (.continuation offset)

/-- The character that starts at `start`, with the length of its sequence, which must end
before `stop`. -/
def charAt (bytes : ByteArray) (start stop : Nat) : Except Fault (Char × Nat) := do
  let lead := byteAt bytes start
  let some length := sequenceLength lead | .error .lead
  if stop < start + length then .error .incomplete
  let value ← continued bytes start (length - 1) 1 (leadBits lead length)
  if value < leastOf length then .error .overlong
  if value.isValidChar then .ok (Char.ofNat value, length)
  else .error .range

/-- The text of the bytes from `start` to `stop`, or where the first sequence starts that forms
no character. `fuel` bounds the number of characters. -/
def decodeFrom (bytes : ByteArray) (stop : Nat) :
    Nat → Nat → List Char → Except Nat (List Char)
  | 0, _, read => .ok read.reverse
  | fuel + 1, start, read =>
    if stop ≤ start then .ok read.reverse
    else
      match charAt bytes start stop with
      | .ok (c, length) => decodeFrom bytes stop fuel (start + length) (c :: read)
      | .error _ => .error start

/-- The text of the bytes from `start` to `stop`, or where the first sequence starts that forms
no character. -/
def decode (bytes : ByteArray) (start stop : Nat) : Except Nat (List Char) :=
  decodeFrom bytes stop (stop - start) start []

end OpenApiClient.Text.Utf8
