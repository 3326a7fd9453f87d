/-!
# Sets of characters

A set of code points as a list of closed ranges, the form in which character properties are
tabulated.
-/
namespace OpenApiClient.Text

/-- Closed ranges of code points. -/
abbrev Ranges := List (Nat × Nat)

/-- Whether a character lies in one of the ranges. -/
def Ranges.has (ranges : Ranges) (c : Char) : Bool :=
  ranges.any fun (low, high) => low ≤ c.toNat && c.toNat ≤ high

end OpenApiClient.Text
