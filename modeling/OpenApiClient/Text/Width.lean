import OpenApiClient.Text.WidthTable

/-!
# Column width

How many columns a text takes on a terminal.
-/
namespace OpenApiClient.Text

/-- The columns of one character: none, one or two. -/
def charColumns (c : Char) : Nat :=
  if c.toNat < 0x300 then (if c.toNat = 0xAD then 0 else 1)
  else if zeroWidth.has c then 0
  else if doubleWidth.has c then 2
  else 1

/-- The columns of a text. -/
def columns : List Char → Nat
  | [] => 0
  | c :: rest => charColumns c + columns rest

end OpenApiClient.Text
