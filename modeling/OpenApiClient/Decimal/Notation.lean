import OpenApiClient.Decimal.Shortest

/-!
# Notations of decimals

Two ways to write a decimal: all its digits around a point, or one digit, the other digits and a
power of ten.
-/
namespace OpenApiClient.Decimal

def digitChars (n : Nat) : List Char := Nat.toDigits 10 n

namespace Numeral

/-- The place of the first digit. -/
def firstPlace (value : Numeral) : Int :=
  value.exponent + ((digitChars value.digits).length : Int) - 1

/-- All digits, with a point and a zero after a whole number. -/
def positional (value : Numeral) : List Char :=
  let digits := digitChars value.digits
  if 0 ≤ value.exponent then digits ++ List.replicate value.exponent.toNat '0' ++ ['.', '0']
  else
    let after := (-value.exponent).toNat
    if after < digits.length then
      digits.take (digits.length - after) ++ '.' :: digits.drop (digits.length - after)
    else '0' :: '.' :: (List.replicate (after - digits.length) '0' ++ digits)

/-- One digit before the point, and the power of ten with its sign and at least two digits. -/
def scientific (value : Numeral) : List Char :=
  let power := value.firstPlace
  let powerDigits := digitChars power.natAbs
  (match digitChars value.digits with
    | [] => []
    | [digit] => [digit]
    | digit :: more => digit :: '.' :: more) ++
    ['e', if power < 0 then '-' else '+'] ++
    (if powerDigits.length < 2 then '0' :: powerDigits else powerDigits)

end Numeral

/-- A number of binary floating point, its magnitude written by `write`. -/
def floatText (write : Numeral → List Char) (value : Float) : String :=
  match magnitudeOfBits value.toBits with
  | (_, .notANumber) => "NaN"
  | (negative, magnitude) =>
    (if negative then "-" else "") ++
      match magnitude with
      | .finite value => String.ofList (write (shortest value))
      | .infinite => "inf"
      | _ => "0.0"

end OpenApiClient.Decimal
