import OpenApiClient.Text.LatinTable

/-!
# Latin spelling

A text spelt with ASCII characters only, each character on its own. This is the spelling that
the command hands to everything that makes names; those take any other one as well.
-/
namespace OpenApiClient.Text

/-- The ASCII spelling of one character; an ASCII character is its own. -/
def latinChar (c : Char) : List Char :=
  if c.toNat < 0x80 then [c]
  else
    match latinTable.find? (·.1 == c.toNat) with
    | some (_, spelling) => spelling.toList
    | none => []

/-- The text with every character replaced by its ASCII spelling. -/
def latin (text : List Char) : List Char := text.flatMap latinChar

end OpenApiClient.Text
