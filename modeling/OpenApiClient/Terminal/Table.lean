import OpenApiClient.Text.Width

/-!
# Tables

Tables of texts with a line above, one below their heads and one at the end. Every column is as
wide as its widest cell and has a space on both sides.
-/
namespace OpenApiClient.Terminal

/-- On which side of a column a cell stands. -/
inductive Alignment where
  | left
  | right
deriving DecidableEq, Repr

/-- A cell by its lines. -/
structure Cell where
  lines : List (List Char)
  alignment : Alignment := .left
deriving DecidableEq, Repr

namespace Cell

/-- The lines of a text, cut at each line feed. -/
def linesOf : List Char → List (List Char)
  | [] => [[]]
  | c :: rest =>
    match linesOf rest with
    | [] => [[c]]
    | line :: more => if c = '\n' then [] :: line :: more else (c :: line) :: more

def ofText (text : String) (alignment : Alignment := .left) : Cell :=
  ⟨linesOf text.toList, alignment⟩

/-- The columns of the widest line. -/
def width (cell : Cell) : Nat := (cell.lines.map Text.columns).foldl max 0

end Cell

/-- Cells side by side. -/
abbrev Row := List Cell

/-- The widths of the columns of rows. -/
def columnWidths : List Row → List Nat
  | [] => []
  | row :: rest =>
    let widths := columnWidths rest
    row.mapIdx fun index cell => max cell.width (widths[index]?.getD 0)

/-- A line on its side of a column, with a space on both sides. -/
def aligned (width : Nat) (alignment : Alignment) (line : List Char) : List Char :=
  let padding := List.replicate (width - Text.columns line) ' '
  match alignment with
  | .left => ' ' :: line ++ padding ++ [' ']
  | .right => ' ' :: padding ++ line ++ [' ']

/-- The lines of a row. -/
def rowLines (widths : List Nat) (row : Row) : List (List Char) :=
  let height := (row.map (·.lines.length)).foldl max 1
  (List.range height).map fun index =>
    let cells := row.zipWith
      (fun cell width => aligned width cell.alignment (cell.lines[index]?.getD [])) widths
    [' '].intercalate cells

/-- A character for every column of a table, where `gap` stands between its cells. -/
def rule (gap : Char) (widths : List Nat) : List Char :=
  [gap].intercalate (widths.map fun width => List.replicate (width + 2) '─')

/-- The lines of a table. -/
def tableLines (head : Row) (rows : List Row) : List (List Char) :=
  let widths := columnWidths (head :: rows)
  [rule ' ' widths] ++ rowLines widths head ++ [rule '─' widths] ++
    rows.flatMap (rowLines widths) ++ [rule ' ' widths]

/-- A table as a text, without a line feed at its end. -/
def tableText (head : Row) (rows : List Row) : String :=
  "\n".intercalate ((tableLines head rows).map String.ofList)

end OpenApiClient.Terminal
