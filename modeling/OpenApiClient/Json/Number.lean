import OpenApiClient.Decimal.Notation
import OpenApiClient.Json.Cursor

/-!
# JSON numbers

A whole number of 64 bits is kept by its digits; every other number becomes binary floating
point. No field of a document is a number, so that numbers occur in messages only.
-/
namespace OpenApiClient.Json

/-- Numbers between 1e-5 and 1e16 are written with all their digits, others with a power of
ten. -/
def decimalText (value : Float) : String :=
  Decimal.floatText
    (fun numeral =>
      if -5 ≤ numeral.firstPlace ∧ numeral.firstPlace < 16 then numeral.positional
      else numeral.scientific)
    value

/-- The number below which whole numbers are kept. -/
def wordLimit : Nat := Nat.pow 2 64

/-- A power of ten that floating point can hold. -/
def powerOfTen (n : Nat) : Float := Float.ofScientific 1 false n

/-- The largest power of ten that floating point can hold. -/
def largestPower : Nat := 308

def signed (negative : Bool) (value : Float) : Float := if negative then -value else value

/-- Divides by the largest power until the power that is left can be held. -/
def scaleDown : Nat → Float → Nat → Float
  | 0, value, _ => value
  | fuel + 1, value, power =>
    if power ≤ largestPower then value / powerOfTen power
    else if value == 0.0 then value
    else scaleDown fuel (value / powerOfTen largestPower) (power - largestPower)

/-- The number `significand · 10 ^ power`, in floating point throughout. -/
def floatOfParts (negative : Bool) (significand : Nat) (power : Int) : Reader Float :=
  let value := significand.toUInt64.toFloat
  if power < 0 then
    pure (signed negative (scaleDown (power.natAbs / largestPower + 2) value power.natAbs))
  else if power.toNat ≤ largestPower then
    let scaled := value * powerOfTen power.toNat
    if scaled.isInf then fail .numberOutOfRange else pure (signed negative scaled)
  else if value == 0.0 then pure (signed negative value)
  else fail .numberOutOfRange

/-- The digit that comes next. -/
def peekDigit : Reader (Option Nat) := do
  match ← peek with
  | some byte => pure (if isDigitByte byte then some (byte.toNat - 0x30) else none)
  | none => pure none

/-- The number below which powers of ten are kept. -/
def powerLimit : Nat := Nat.pow 2 31

/-- The power of ten that digits write, `none` if it has more than 31 bits. -/
def powerDigits : Nat → Nat → Reader (Option Nat)
  | 0, power => pure (some power)
  | fuel + 1, power => do
    match ← peekDigit with
    | none => pure (some power)
    | some digit =>
      skipByte
      if powerLimit ≤ power * 10 + digit then
        pure none
      else powerDigits fuel (power * 10 + digit)

/-- The limits between which a power of ten is kept. -/
def clampedPower (power : Int) : Int :=
  max (-(powerLimit : Int)) (min ((powerLimit : Int) - 1) power)

/-- The first digit of a power of ten. -/
def firstPowerDigit : Reader Nat := do
  match ← next with
  | none => fail .endInValue
  | some byte => if isDigitByte byte then pure (byte.toNat - 0x30) else fail .invalidNumber

/-- Passes the sign of a power of ten and says whether it is negative. -/
def powerSign : Reader Bool := do
  if ← nextIs '+' then
    skipByte
    pure false
  else if ← nextIs '-' then
    skipByte
    pure true
  else pure false

/-- The number with the power of ten that comes next. -/
def withPower (negative : Bool) (significand : Nat) (start : Int) : Reader Float := do
  skipByte
  let down ← powerSign
  let first ← firstPowerDigit
  match ← powerDigits (← fuelLeft) first with
  | some power =>
    floatOfParts negative significand (clampedPower (if down then start - power else start + power))
  | none =>
    if significand ≠ 0 ∧ ¬ down then fail .numberOutOfRange
    else
      skipDigits
      pure (signed negative 0.0)

/-- Whether a power of ten comes next. -/
def powerIsNext : Reader Bool := do return (← nextIs 'e') || (← nextIs 'E')

/-- The number with the power of ten that may come next. -/
def withOptionalPower (negative : Bool) (significand : Nat) (power : Int) : Reader Float := do
  if ← powerIsNext then withPower negative significand power
  else floatOfParts negative significand power

/-- What digits after the point add: the significand, how many digits it has taken up, and
whether it could take up all of them. -/
def fractionDigits : Nat → Nat → Nat → Reader (Nat × Nat × Bool)
  | 0, significand, count => pure (significand, count, true)
  | fuel + 1, significand, count => do
    match ← peekDigit with
    | none => pure (significand, count, true)
    | some digit =>
      if wordLimit ≤ significand * 10 + digit then pure (significand, count, false)
      else
        skipByte
        fractionDigits fuel (significand * 10 + digit) (count + 1)

/-- The number with the digits after its point, which comes next. -/
def withFraction (negative : Bool) (significand : Nat) (power : Int) : Reader Float := do
  skipByte
  let (significand, count, complete) ← fractionDigits (← fuelLeft) significand 0
  if complete then
    if count = 0 then
      failAtNext (if (← peek).isSome then .invalidNumber else .endInValue)
    else withOptionalPower negative significand (power - count)
  else
    skipDigits
    withOptionalPower negative significand (power - count)

/-- The number with what may follow its digits before the point. -/
def withRest (negative : Bool) (significand : Nat) (power : Int) : Reader Float := do
  if ← nextIs '.' then withFraction negative significand power
  else withOptionalPower negative significand power

/-- The significand that digits write, and whether it could take up all of them. -/
def wholeDigits : Nat → Nat → Reader (Nat × Bool)
  | 0, significand => pure (significand, true)
  | fuel + 1, significand => do
    match ← peekDigit with
    | none => pure (significand, true)
    | some digit =>
      if wordLimit ≤ significand * 10 + digit then pure (significand, false)
      else
        skipByte
        wholeDigits fuel (significand * 10 + digit)

/-- A negative whole number that 64 bits with a sign can hold. -/
def foundNegative (significand : Nat) : Found :=
  if significand ≠ 0 ∧ significand ≤ Nat.pow 2 63 then .integer ("-" ++ toString significand)
  else .decimal (decimalText (-significand.toUInt64.toFloat))

/-- The number that begins with `significand`. -/
def numberAfter (negative : Bool) (significand : Nat) : Reader Found := do
  if (← nextIs '.') || (← powerIsNext) then
    return .decimal (decimalText (← withRest negative significand 0))
  else if negative then pure (foundNegative significand)
  else pure (.integer (toString significand))

/-- A number whose sign is behind the reader. -/
def readNumber (negative : Bool) : Reader Found := do
  match ← next with
  | none => fail .endInValue
  | some byte =>
    if byte = byteOf '0' then
      if (← peekDigit).isSome then failAtNext .invalidNumber
      else numberAfter negative 0
    else if isDigitByte byte then
      let (significand, complete) ← wholeDigits (← fuelLeft) (byte.toNat - 0x30)
      if complete then numberAfter negative significand
      else
        let start ← get
        skipDigits
        return .decimal (decimalText
          (← withRest negative significand (((← get) - start : Nat) : Int)))
    else fail .invalidNumber

/-! ## Passing numbers -/

/-- The next byte, which is then behind the reader, if it is a digit; fails behind any byte. -/
def skipRequiredDigit : Reader Unit := do
  match ← next with
  | some byte => if !isDigitByte byte then fail .invalidNumber
  | none => fail .invalidNumber

def skipPower : Reader Unit := do
  skipByte
  let _ ← powerSign
  skipRequiredDigit
  skipDigits

def skipFraction : Reader Unit := do
  skipByte
  if (← peekDigit).isNone then failAtNext .invalidNumber
  skipDigits
  if ← powerIsNext then skipPower

/-- Passes a number whose sign is behind the reader. -/
def skipNumber : Reader Unit := do
  match ← next with
  | some byte =>
    if byte = byteOf '0' then
      if (← peekDigit).isSome then failAtNext .invalidNumber
    else if isDigitByte byte then skipDigits
    else fail .invalidNumber
  | none => fail .invalidNumber
  if ← nextIs '.' then skipFraction
  else if ← powerIsNext then skipPower

end OpenApiClient.Json
