import OpenApiClient.Decimal.Notation
import OpenApiClient.Written.Mismatch
import OpenApiClient.Yaml.Event

/-!
# Values of scalars

What a scalar stands for where nothing particular is expected: a plain one by its form, any one by
its tag.
-/
namespace OpenApiClient.Yaml

/-! ## Forms -/

/-- The plain forms of null. -/
def isNullWord (text : String) : Bool := ["null", "Null", "NULL", "~"].contains text

def flagOf? (text : String) : Option Bool :=
  if ["true", "True", "TRUE"].contains text then some true
  else if ["false", "False", "FALSE"].contains text then some false
  else none

/-- The value of a digit below `base`. -/
def digitOf? (base : Nat) (c : Char) : Option Nat :=
  let value :=
    if '0' ≤ c ∧ c ≤ '9' then c.toNat - 0x30
    else if 'a' ≤ c ∧ c ≤ 'z' then c.toNat - 0x57
    else if 'A' ≤ c ∧ c ≤ 'Z' then c.toNat - 0x37
    else base
  if value < base then some value else none

/-- The number that digits write. -/
def digitsOf? (base : Nat) (digits : List Char) : Option Nat :=
  if digits.isEmpty then none
  else digits.foldlM (fun value c => (digitOf? base c).map (value * base + ·)) 0

def isSign (c : Char) : Bool := c = '+' || c = '-'

/-- Whether there are digits only, and a zero before others. Such a text is no number. -/
def isPaddedDigits (text : List Char) : Bool :=
  let digits := match text with
    | c :: rest => if isSign c then rest else text
    | [] => []
  1 < digits.length && digits.head? = some '0' && digits.all Char.isDigit

/-- A number with the base that its first characters name. -/
def basedOf? : List Char → Option Nat
  | '0' :: 'x' :: digits => digitsOf? 16 digits
  | '0' :: 'o' :: digits => digitsOf? 8 digits
  | '0' :: 'b' :: digits => digitsOf? 2 digits
  | _ => none

/-- The whole number that a text writes. -/
def wholeOf? (text : List Char) : Option Int :=
  let magnitude (digits : List Char) : Option Nat :=
    (basedOf? digits).or (if isPaddedDigits text then none else digitsOf? 10 digits)
  match text with
  | '-' :: digits => (magnitude digits).map fun value => -(value : Int)
  | '+' :: digits => (magnitude digits).map Int.ofNat
  | digits => (magnitude digits).map Int.ofNat

/-- Whether a number can be held in `bits` bits, negative ones with a sign. -/
def fitsWord (bits : Nat) (value : Int) : Bool :=
  if value < 0 then value.natAbs ≤ Nat.pow 2 (bits - 1) else value.natAbs < Nat.pow 2 bits

/-- A whole number as a message writes it, if it has at most 128 bits. -/
def foundWhole? (value : Int) : Option Found :=
  if fitsWord 64 value then some (.integer (toString value))
  else if fitsWord 128 value then
    some (.wideInteger (toString value) (value < 0))
  else none

/-- A number with a point or a power of ten: its digits without the point, and the power. -/
structure PointNumber where
  digits : Nat
  power : Int

/-- The power of ten that a text writes. -/
def powerOf? : List Char → Option Int
  | '-' :: digits => (digitsOf? 10 digits).map fun value => -(value : Int)
  | '+' :: digits => (digitsOf? 10 digits).map Int.ofNat
  | digits => (digitsOf? 10 digits).map Int.ofNat

/-- A number without a sign: digits with or without a point, and perhaps a power of ten. -/
def pointNumber? (text : List Char) : Option PointNumber := do
  let whole := text.takeWhile Char.isDigit
  let rest := text.dropWhile Char.isDigit
  let (fraction, rest) := match rest with
    | '.' :: rest => (rest.takeWhile Char.isDigit, rest.dropWhile Char.isDigit)
    | rest => ([], rest)
  let digits ← digitsOf? 10 (whole ++ fraction)
  let power ← match rest with
    | [] => some 0
    | c :: power => if c = 'e' ∨ c = 'E' then powerOf? power else none
  pure ⟨digits, power - (fraction.length : Int)⟩

/-- The number in binary floating point. Powers far outside its range are not worked out. -/
def PointNumber.toFloat (number : PointNumber) : Float :=
  let place := number.power + ((Nat.toDigits 10 number.digits).length : Int)
  if number.digits = 0 ∨ place < -400 then 0.0
  else if 400 < place then 1.0 / 0.0
  else Float.ofScientific number.digits (number.power < 0) number.power.natAbs

/-- The number in floating point that a text writes. -/
def floatOf? (text : List Char) : Option Float :=
  let word := String.ofList (if text.head? = some '+' then text.drop 1 else text)
  if [".inf", ".Inf", ".INF"].contains word then some (1.0 / 0.0)
  else if ["-.inf", "-.Inf", "-.INF"].contains (String.ofList text) then some (-1.0 / 0.0)
  else if [".nan", ".NaN", ".NAN"].contains (String.ofList text) then some (0.0 / 0.0)
  else
    let number : Option Float := match text with
      | '-' :: rest => (pointNumber? rest).map fun number => -number.toFloat
      | '+' :: rest => (pointNumber? rest).map PointNumber.toFloat
      | rest => (pointNumber? rest).map PointNumber.toFloat
    number.filter (·.isFinite)

def foundFloat (value : Float) : Found :=
  .decimal (Decimal.floatText Decimal.Numeral.positional value)

/-- What a plain scalar stands for by its form. -/
def foundPlain (text : String) : Found :=
  let chars := text.toList
  if text = "" || isNullWord text then .null
  else
    match flagOf? text with
    | some value => .flag value
    | none =>
      match (wholeOf? chars).bind foundWhole? with
      | some found => found
      | none =>
        match if isPaddedDigits chars then none else floatOf? chars with
        | some value => foundFloat value
        | none => .text text

/-! ## Tags -/

def coreTag (name : String) : String := "tag:yaml.org,2002:" ++ name

/-- Whether a tag is one of the document's own. -/
def isLocalTag (tag : Option String) : Bool := tag.any fun tag => tag.toList.head? = some '!'

/-- What a scalar stands for. -/
inductive Meaning where
  | found (found : Found)
  /-- Its text is not what its tag says. -/
  | contrary (text expected : String)

namespace ScalarValue

/-- The meaning that a tag gives, if the text has it. -/
def tagged (value : ScalarValue) (found : Option Found) (expected : String) : Meaning :=
  match found with
  | some found => .found found
  | none => .contrary value.text expected

/-- What a scalar stands for. -/
def meaning (value : ScalarValue) : Meaning :=
  let untagged : Meaning :=
    .found (if value.style = .plain then foundPlain value.text else .text value.text)
  match value.tag with
  | none => untagged
  | some tag =>
    let chars := value.text.toList
    if tag = coreTag "bool" then
      value.tagged ((flagOf? value.text).map .flag) "a boolean"
    else if tag = coreTag "int" then
      value.tagged ((wholeOf? chars).bind foundWhole?) "an integer"
    else if tag = coreTag "float" then
      value.tagged ((floatOf? chars).map foundFloat) "a float"
    else if tag = coreTag "null" then
      value.tagged (if isNullWord value.text then some .null else none) "null"
    else if isLocalTag tag then untagged
    else .found (.text value.text)

/-- The flag that a scalar writes: a plain one, or a literal one with the tag of flags. -/
def flag? (value : ScalarValue) : Option Bool :=
  if value.style = .plain ∨ (value.style = .literal ∧ value.tag = some (coreTag "bool")) then
    flagOf? value.text
  else none

/-- Whether nothing is written. -/
def isEmpty (value : ScalarValue) : Bool := value.style = .plain && value.text = ""

end ScalarValue

end OpenApiClient.Yaml
