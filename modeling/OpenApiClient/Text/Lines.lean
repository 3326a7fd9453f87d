/-!
# Lines

Cutting a text into lines, and the one line end that every written file uses.
-/
namespace OpenApiClient.Text

/-- The lines of a text. A line ends at a line feed, or at a carriage return and a line feed;
a carriage return alone ends nothing. There is no empty line after the last line end. -/
def lines : List Char → List (List Char)
  | [] => []
  | '\n' :: rest => [] :: lines rest
  | '\r' :: '\n' :: rest => [] :: lines rest
  | c :: rest =>
    match lines rest with
    | [] => [[c]]
    | line :: more => (c :: line) :: more

/-- Lines with `separator` between every two of them. -/
def joined (separator : List Char) : List (List Char) → List Char
  | [] => []
  | [line] => line
  | line :: next :: more => line ++ separator ++ joined separator (next :: more)

end OpenApiClient.Text
