import OpenApiClient.Json.Failure

/-!
# Reading bytes

A reader moves over the bytes of a JSON text and keeps its position when it fails, so that what
surrounds a failure can still be closed.
-/
namespace OpenApiClient.Json

/-- What a reader knows: the text, and the place in the document that it reads. -/
structure Context where
  bytes : ByteArray
  place : Place

/-- A reader; its state is the number of bytes that it has read. -/
abbrev Reader := ReaderT Context (EStateM Failure Nat)

variable {α : Type}

/-- Reads one step further into the document. -/
def inside (step : Step) (reader : Reader α) : Reader α := fun context =>
  reader { context with place := step :: context.place }

/-- The next byte, if there is one. -/
def peek : Reader (Option UInt8) := fun context => do
  let position ← get
  pure (if h : position < context.bytes.size then some context.bytes[position] else none)

/-- Moves past the next byte. -/
def skipByte : Reader Unit := modify (· + 1)

/-- The next byte, which is then behind the reader. -/
def next : Reader (Option UInt8) := do
  let byte ← peek
  if byte.isSome then skipByte
  pure byte

/-- Fails after `position` bytes. -/
def failAt (position : Nat) (cause : Cause) : Reader α := fun context =>
  throw ⟨context.place, cause, some position⟩

/-- Fails where the reader stands. -/
def fail (cause : Cause) : Reader α := do failAt (← get) cause

/-- Fails behind the next byte. -/
def failAtNext (cause : Cause) : Reader α := do
  let context ← read
  failAt (min context.bytes.size ((← get) + 1)) cause

/-- Fails with a position that is yet to be settled. -/
def failUnsettled (cause : Cause) : Reader α := fun context =>
  throw ⟨context.place, cause, none⟩

/-- The outcome of a reader; a failure does not move back. -/
def outcome (reader : Reader α) : Reader (Except Failure α) := fun context position =>
  match reader context position with
  | .ok value position => .ok (.ok value) position
  | .error failure position => .ok (.error failure) position

/-- Gives up with an earlier failure, which is settled here if it has no position. -/
def raise (failure : Failure) : Reader α := do
  let position ← get
  throw { failure with position := some (failure.position.getD position) }

/-- Settles the position of a failure where the reader stops. -/
def settled (reader : Reader α) : Reader α := do
  match ← outcome reader with
  | .ok value => pure value
  | .error failure => raise failure

/-! ## Bytes -/

/-- The byte of an ASCII character. -/
def byteOf (c : Char) : UInt8 := c.val.toUInt8

def isBlankByte (byte : UInt8) : Bool :=
  byte = 0x20 || byte = 0x0A || byte = 0x09 || byte = 0x0D

def isDigitByte (byte : UInt8) : Bool := 0x30 ≤ byte && byte ≤ 0x39

/-- Moves while the bytes satisfy `test`, at most `fuel` bytes. -/
def skipWhile (test : UInt8 → Bool) : Nat → Reader Unit
  | 0 => pure ()
  | fuel + 1 => do
    match ← peek with
    | some byte =>
      if test byte then
        skipByte
        skipWhile test fuel
    | none => pure ()

/-- How many bytes are left, and one more. -/
def fuelLeft : Reader Nat := fun context => do
  let position ← get
  pure (context.bytes.size - position + 1)

def skipBlanks : Reader Unit := do skipWhile isBlankByte (← fuelLeft)

def skipDigits : Reader Unit := do skipWhile isDigitByte (← fuelLeft)

/-- The next byte that is not blank. -/
def peekVisible : Reader (Option UInt8) := do
  skipBlanks
  peek

/-- Whether the next byte is the given character. -/
def nextIs (c : Char) : Reader Bool := do return (← peek) = some (byteOf c)

/-- Reads the rest of a word. -/
def readWord : List Char → Reader Unit
  | [] => pure ()
  | c :: rest => do
    match ← next with
    | none => fail .endInValue
    | some byte => if byte = byteOf c then readWord rest else fail .noWord

end OpenApiClient.Json
