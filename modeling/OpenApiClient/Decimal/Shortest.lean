/-!
# Shortest decimals

The decimal with the fewest digits that reads back as a given binary number, and of those the
nearest to it.

A binary number `m · 2 ^ q` stands for all reals that round to it, an interval around it whose
ends belong to it if `m` is even. For 1, 2, … 17 digits the two decimals next to the number are
tried; the first that lies in the interval is the answer.
-/
namespace OpenApiClient.Decimal

/-- A positive number of binary floating point, `mantissa · 2 ^ exponent`. -/
structure Binary where
  mantissa : Nat
  exponent : Int
  /-- Whether the next smaller number is only half as far away as the next larger one. -/
  closeBelow : Bool
deriving DecidableEq, Repr

/-- A decimal number, `digits · 10 ^ exponent`. -/
structure Numeral where
  digits : Nat
  exponent : Int
deriving DecidableEq, Repr

/-- A finite or infinite number of binary floating point. -/
inductive Magnitude where
  | zero
  | finite (value : Binary)
  | infinite
  | notANumber
deriving DecidableEq, Repr

/-- The sign and the magnitude of the number with the given 64 bits. -/
def magnitudeOfBits (bits : UInt64) : Bool × Magnitude :=
  let n := bits.toNat
  let fraction : Nat := n % Nat.pow 2 52
  let scale : Nat := n / Nat.pow 2 52 % Nat.pow 2 11
  (Nat.pow 2 63 ≤ n,
    if scale = 2047 then if fraction = 0 then .infinite else .notANumber
    else if scale = 0 then
      if fraction = 0 then .zero else .finite ⟨fraction, -1074, false⟩
    else .finite ⟨Nat.pow 2 52 + fraction, (scale : Int) - 1075, fraction = 0 ∧ 1 < scale⟩)

/-- A quotient of natural numbers. -/
structure Ratio where
  num : Nat
  den : Nat

/-- A quarter of the unit in the last place of a binary number, divided by `10 ^ place`. -/
def quarter (value : Binary) (place : Int) : Ratio :=
  ⟨Nat.pow 2 (value.exponent - 2).toNat * Nat.pow 10 (-place).toNat,
    Nat.pow 2 (2 - value.exponent).toNat * Nat.pow 10 place.toNat⟩

/-- How many times a number below 1 must be multiplied by ten to reach 1. -/
def placesBelow (den : Nat) : Nat → Nat → Nat
  | 0, _ => 0
  | fuel + 1, num => if den ≤ num then 0 else placesBelow den fuel (num * 10) + 1

/-- The place of the first digit: the largest power of ten that is not above the number. -/
def firstPlace (value : Binary) : Int :=
  let unit := quarter value 0
  let num := 4 * value.mantissa * unit.num
  if unit.den ≤ num then ((Nat.toDigits 10 (num / unit.den)).length : Int) - 1
  else -(placesBelow unit.den 400 num : Int)

/-- The multiple of `10 ^ place` nearest to the number among those next to it that read back as
the number; of two at the same distance the even one. -/
def nearestAt (value : Binary) (place : Int) : Option Nat :=
  let unit := quarter value place
  let middle := 4 * value.mantissa * unit.num
  let low := (4 * value.mantissa - if value.closeBelow then 1 else 2) * unit.num
  let high := (4 * value.mantissa + 2) * unit.num
  let below := middle / unit.den
  let rest := middle % unit.den
  let closed := value.mantissa % 2 = 0
  let lowFits := low < below * unit.den ∨ (closed ∧ low = below * unit.den)
  let highFits := (below + 1) * unit.den < high ∨ (closed ∧ (below + 1) * unit.den = high)
  let preferBelow := 2 * rest < unit.den ∨ (2 * rest = unit.den ∧ below % 2 = 0)
  if lowFits ∧ (preferBelow ∨ ¬ highFits) then some below
  else if highFits then some (below + 1)
  else none

/-- The decimal without zeros at its end. -/
def withoutZeros : Nat → Numeral → Numeral
  | 0, value => value
  | fuel + 1, value =>
    if value.digits ≠ 0 ∧ value.digits % 10 = 0 then
      withoutZeros fuel ⟨value.digits / 10, value.exponent + 1⟩
    else value

/-- Tries `fuel` places, from `place` downwards. -/
def shortestFrom (value : Binary) : Nat → Int → Numeral
  | 0, place => ⟨0, place⟩
  | fuel + 1, place =>
    match nearestAt value place with
    | some digits => withoutZeros 20 ⟨digits, place⟩
    | none => shortestFrom value fuel (place - 1)

/-- The shortest decimal that reads back as the number. -/
def shortest (value : Binary) : Numeral := shortestFrom value 18 (firstPlace value)

end OpenApiClient.Decimal
