import OpenApiClient.Json.Number
import OpenApiClient.Json.Text

/-!
# Passing values

The value of a field that a document may have but that says nothing to this library is passed:
it must be JSON, but it may be nested as deeply as it likes. The lists and objects that are open
stand on a stack.
-/
namespace OpenApiClient.Json

/-- A list or an object that is open. -/
inductive Bracket where
  | list
  | object
deriving DecidableEq, Repr

namespace Bracket

def closing : Bracket → Char
  | list => ']'
  | object => '\x7d'

def noComma : Bracket → Cause
  | list => .noCommaInList
  | object => .noCommaInObject

def endInside : Bracket → Cause
  | list => .endInList
  | object => .endInObject

end Bracket

/-- Passes the colon after a key. -/
def readColon : Reader Unit := do
  match ← peekVisible with
  | none => failAtNext .endInObject
  | some byte => if byte = byteOf ':' then skipByte else failAtNext .noColon

/-- Passes a key and its colon. -/
def skipKey : Reader Unit := do
  match ← peekVisible with
  | none => failAtNext .endInObject
  | some byte =>
    if byte = byteOf '\x22' then
      skipByte
      skipText
      readColon
    else failAtNext .keyIsNoText

/-- What begins a value that is passed. -/
inductive Begun where
  | opened (bracket : Bracket)
  | passed

/-- Passes a value that has no parts, or the bracket that opens one with parts. -/
def beginSkip : Reader Begun := do
  match ← peekVisible with
  | none => failAtNext .endInValue
  | some byte =>
    match Char.ofNat byte.toNat with
    | 'n' => word ['u', 'l', 'l']
    | 't' => word ['r', 'u', 'e']
    | 'f' => word ['a', 'l', 's', 'e']
    | '\x22' =>
      skipByte
      skipText
      pure .passed
    | '-' =>
      skipByte
      skipNumber
      pure .passed
    | '[' =>
      skipByte
      pure (.opened .list)
    | '\x7b' =>
      skipByte
      pure (.opened .object)
    | _ =>
      if isDigitByte byte then
        skipNumber
        pure .passed
      else failAtNext .noValue
where
  word (rest : List Char) : Reader Begun := do
    skipByte
    readWord rest
    pure .passed

/-- Closes brackets until another value comes or none is open, and gives those that stay open.
`after` says whether a value stands before. -/
def closeBrackets : Bool → List Bracket → Reader (List Bracket)
  | _, [] => pure []
  | after, bracket :: outer => do
    match ← peekVisible with
    | none => failAtNext bracket.endInside
    | some byte =>
      if after && byte = byteOf ',' then
        skipByte
        pure (bracket :: outer)
      else if byte = byteOf bracket.closing then
        skipByte
        closeBrackets true outer
      else if after then failAtNext bracket.noComma
      else pure (bracket :: outer)

/-- Passes values until no bracket is open. -/
def skipValues : Nat → List Bracket → Reader Unit
  | 0, _ => pure ()
  | fuel + 1, opened => do
    let left ←
      match ← beginSkip with
      | .opened bracket => closeBrackets false (bracket :: opened)
      | .passed => closeBrackets true opened
    match left with
    | [] => pure ()
    | bracket :: _ =>
      if bracket = .object then skipKey
      skipValues fuel left

/-- Passes a value. -/
def skipValue : Reader Unit := do skipValues (← fuelLeft) []

end OpenApiClient.Json
