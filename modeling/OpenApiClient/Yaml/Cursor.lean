import OpenApiClient.Yaml.Characters
import OpenApiClient.Yaml.Token

/-!
# Moving through a text

The state in which tokens are found, and the readers of single characters. Indentation is known
by a stack of columns. A key without an indicator is noticed only at its colon, so for every open
flow collection, and for the block around them, the last place is kept where such a key may have
begun.
-/
namespace OpenApiClient.Yaml

/-- A place where a key without an indicator may have begun. -/
structure SimpleKey where
  /-- Whether nothing but a key can begin there. -/
  required : Bool
  /-- The number of the token that begins there. -/
  token : Nat
  mark : Mark
deriving DecidableEq, Repr

/-- What is known while tokens are found. -/
structure Scanning where
  mark : Mark := {}
  started : Bool := false
  /-- Tokens that have been found and not yet taken. -/
  queue : List Token := []
  /-- How many tokens have been taken. -/
  taken : Nat := 0
  /-- Whether the first token of the queue is known to stay the first. -/
  settled : Bool := false
  /-- The column of the innermost block collection, −1 outside all of them. -/
  indent : Int := -1
  /-- The columns of the collections around it. -/
  outer : List Int := []
  keyAllowed : Bool := false
  /-- The possible key of the innermost flow collection, or of the block. -/
  possible : Option SimpleKey := none
  /-- Those of the flow collections around it and of the block. -/
  around : List (Option SimpleKey) := []

/-- Whether the next token is inside a flow collection. -/
def Scanning.inFlow (state : Scanning) : Bool := !state.around.isEmpty

/-- A reader of a text. -/
abbrev Scan := ReaderT (Array Char) (EStateM Problem Scanning)

variable {α : Type}

def currentMark : Scan Mark := return (← get).mark

/-- The character `ahead` characters behind the next one. -/
def charAhead (ahead : Nat) : Scan Char := do
  let text ← read
  let index := (← get).mark.index + ahead
  pure (if h : index < text.size then text[index] else '\x00')

def nextChar : Scan Char := charAhead 0

/-- Fails at the current mark. -/
def failScan (activity : Activity) (start : Mark) (fault : Fault) : Scan α := do
  throw { fault := fault, mark := ← currentMark, context := some (activity, start) }

/-- Fails at the current mark, whatever is being read. -/
def failHere (fault : Fault) : Scan α := do
  throw { fault := fault, mark := ← currentMark }

/-- Passes `count` characters of a line. -/
def advance (count : Nat) : Scan Unit :=
  modify fun state =>
    { state with mark :=
      { state.mark with
        index := state.mark.index + count, column := state.mark.column + count } }

/-- The next character, which is passed. -/
def takeChar : Scan Char := do
  let c ← nextChar
  advance 1
  pure c

/-- The line break at a character, as it is kept in a text, and its length. -/
def breakAt (c next : Char) : Option (List Char × Nat) :=
  if c = '\r' && next = '\n' then some (['\n'], 2)
  else if c = '\r' || c = '\n' || c.toNat = 0x85 then some (['\n'], 1)
  else if isBreak c then some ([c], 1)
  else none

/-- Passes a line break, if one comes next, and gives it as it is kept in a text. -/
def takeBreak : Scan (List Char) := do
  match breakAt (← nextChar) (← charAhead 1) with
  | none => pure []
  | some (kept, length) =>
    modify fun state =>
      { state with mark := ⟨state.mark.index + length, state.mark.line + 1, 0⟩ }
    pure kept

/-- How many characters are left, and some more. -/
def charsLeft : Scan Nat := do
  let text ← read
  return text.size - (← get).mark.index + 2

/-- The characters up to the first that fails the test, at most `fuel` of them. They must be
within a line. -/
def takeWhileFrom (test : Char → Bool) : Nat → List Char → Scan (List Char)
  | 0, taken => pure taken.reverse
  | fuel + 1, taken => do
    let c ← nextChar
    if test c && !isEnd c then
      advance 1
      takeWhileFrom test fuel (c :: taken)
    else pure taken.reverse

/-- The characters up to the first that fails the test. -/
def takeChars (test : Char → Bool) : Scan (List Char) := do takeWhileFrom test (← charsLeft) []

def skipChars (test : Char → Bool) : Scan Unit := do
  let _ ← takeChars test

/-- Passes a comment, if one comes next. -/
def skipComment : Scan Unit := do
  if (← nextChar) = '#' then skipChars fun c => !isBreak c

/-- Passes blanks and a comment, then the end of the line. -/
def skipLineRest (activity : Activity) (start : Mark) : Scan Unit := do
  skipChars isBlank
  skipComment
  if !isBreakOrEnd (← nextChar) then failScan activity start .noLineBreak
  let _ ← takeBreak

/-- Whether three times the given character and then a blank or a line end come next. -/
def markerFollows (c : Char) : Scan Bool := do
  return (← nextChar) = c && (← charAhead 1) = c && (← charAhead 2) = c &&
    isBlankOrEnd (← charAhead 3)

/-- Whether a line begins here with the marker of a document's start or end. -/
def atDocumentMarker : Scan Bool := do
  if (← currentMark).column ≠ 0 then pure false
  else return (← markerFollows '-') || (← markerFollows '.')

/-! ## Lines of a scalar -/

/-- What lies between two pieces of text in a scalar of several lines. -/
structure Gap where
  /-- Blanks, if the line goes on. -/
  blanks : List Char := []
  /-- Whether a line has ended. -/
  broken : Bool := false
  /-- The first line break, and those after it. -/
  first : List Char := []
  others : List Char := []

/-- The text that stands for a gap: blanks stay, a single line feed becomes a space, and of
several line breaks the first is dropped if it is a line feed. -/
def Gap.folded (gap : Gap) : List Char :=
  if gap.broken then
    if gap.first.head? = some '\n' then
      if gap.others.isEmpty then [' '] else gap.others
    else gap.first ++ gap.others
  else gap.blanks

/-- The gap with one more line break. -/
def Gap.withBreak (gap : Gap) (kept : List Char) : Gap :=
  if gap.broken then { gap with others := gap.others ++ kept }
  else { gap with blanks := [], broken := true, first := kept }

/-- The gap with one more blank; blanks at the start of a line do not count. -/
def Gap.withBlank (gap : Gap) (c : Char) : Gap :=
  if gap.broken then gap else { gap with blanks := gap.blanks ++ [c] }

end OpenApiClient.Yaml
