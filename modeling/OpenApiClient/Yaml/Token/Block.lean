import OpenApiClient.Yaml.Cursor

/-!
# Block scalars

Scalars that take up whole lines below an indicator. Literal ones keep their line breaks; folded
ones turn a single line feed between two lines without indentation into a space. The indicator
may fix the indentation and say what happens to the line breaks at the end.
-/
namespace OpenApiClient.Yaml

/-- What happens to line breaks at the end. -/
inductive Chomping where
  | strip
  | clip
  | keep
deriving DecidableEq, Repr

/-- The sign that stands for a way of chomping. -/
def chomping : Scan (Option Chomping) := do
  let c ← nextChar
  if c = '+' then
    advance 1
    pure (some .keep)
  else if c = '-' then
    advance 1
    pure (some .strip)
  else pure none

/-- The digit that fixes the indentation, 0 if there is none. -/
def indentation (start : Mark) : Scan Nat := do
  let c ← nextChar
  if c = '0' then failScan .blockScalar start .zeroIndentation
  else if c.isDigit then
    advance 1
    pure (c.toNat - 0x30)
  else pure 0

/-- Sign and digit in either order. -/
def blockHeader (start : Mark) : Scan (Chomping × Nat) := do
  match ← chomping with
  | some chomping => return (chomping, ← indentation start)
  | none =>
    let digit ← indentation start
    if digit = 0 then pure (.clip, 0) else return ((← chomping).getD .clip, digit)

/-- Line breaks before a line of a block scalar. -/
structure BlankLines where
  breaks : List Char
  /-- The mark behind the last of them. -/
  stop : Mark
  /-- The largest column that was reached by spaces. -/
  widest : Nat

/-- Whether a column is before the indentation, where 0 is an indentation not yet known. -/
def isBefore (indent column : Nat) : Bool := indent = 0 || column < indent

/-- Passes spaces before the indentation. -/
def skipIndentation (indent : Nat) : Nat → Scan Unit
  | 0 => pure ()
  | fuel + 1 => do
    if isBefore indent (← currentMark).column && (← nextChar) = ' ' then
      advance 1
      skipIndentation indent fuel

/-- Passes lines that hold spaces only. -/
def blankLinesFrom (indent : Nat) (start : Mark) : Nat → BlankLines → Scan BlankLines
  | 0, lines => pure lines
  | fuel + 1, lines => do
    skipIndentation indent (← charsLeft)
    let mark ← currentMark
    let c ← nextChar
    let widest := max lines.widest mark.column
    if isBefore indent mark.column && c = '\t' then
      failScan .blockScalar start .tabInIndentation
    if isBreak c then
      let kept ← takeBreak
      blankLinesFrom indent start fuel ⟨lines.breaks ++ kept, ← currentMark, widest⟩
    else pure { lines with widest := widest }

/-- Passes lines that hold spaces only, and gives the indentation, found out if it was not
known. -/
def blankLines (indent : Nat) (start : Mark) : Scan (BlankLines × Nat) := do
  let lines ← blankLinesFrom indent start (← charsLeft) ⟨[], ← currentMark, 0⟩
  let least := max 1 ((← get).indent + 1).toNat
  pure (lines, if indent = 0 then max lines.widest least else indent)

/-- A block scalar while it is read. -/
structure BlockText where
  text : List Char := []
  /-- The line break after the last line. -/
  last : List Char := []
  /-- The blank lines that follow it. -/
  blank : BlankLines
  /-- Whether the last line begins with a blank. -/
  indented : Bool := false

/-- The text with what lies between the last line and the next one. -/
def BlockText.joined (block : BlockText) (literal indented : Bool) : List Char :=
  let fold := !literal && block.last.head? = some '\n' && !block.indented && !indented
  let between :=
    if fold then if block.blank.breaks.isEmpty then [' '] else [] else block.last
  block.text ++ between ++ block.blank.breaks

/-- Reads lines while they have the indentation. -/
def blockLines (literal : Bool) (indent : Nat) (start : Mark) :
    Nat → BlockText → Scan BlockText
  | 0, block => pure block
  | fuel + 1, block => do
    let c ← nextChar
    if (← currentMark).column ≠ indent || isEnd c then pure block
    else
      let indented := isBlank c
      let text := block.joined literal indented
      let line ← takeChars fun c => !isBreak c
      let last ← takeBreak
      let (blank, _) ← blankLines indent start
      blockLines literal indent start fuel ⟨text ++ line, last, blank, indented⟩

/-- The whole text, its end chomped. -/
def BlockText.chomped (block : BlockText) : Chomping → List Char
  | .strip => block.text
  | .clip => block.text ++ block.last
  | .keep => block.text ++ block.last ++ block.blank.breaks

/-- The token of a block scalar. -/
def blockToken (literal : Bool) : Scan Token := do
  let start ← currentMark
  advance 1
  let (chomping, digit) ← blockHeader start
  skipLineRest .blockScalar start
  let outer := (← get).indent
  let given := if digit = 0 then 0 else (max 0 outer).toNat + digit
  let (blank, indent) ← blankLines given start
  let block ← blockLines literal indent start (← charsLeft) { blank := blank }
  let style := if literal then .literal else .folded
  pure ⟨.scalar (String.ofList (block.chomped chomping)) style, start, block.blank.stop⟩

end OpenApiClient.Yaml
