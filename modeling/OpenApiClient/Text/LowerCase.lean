import OpenApiClient.Text.CaseTable

/-!
# Lower case

The lower-case form of a text. Each character has a form of its own but two: the dotted capital
I becomes two characters, and a capital sigma takes its final form at the end of a word.
-/
namespace OpenApiClient.Text

/-- Whether, past characters that are looked through, a letter with case comes next. -/
def meetsCased (text : List Char) : Bool :=
  match text.dropWhile caseIgnorable.has with
  | [] => false
  | c :: _ => cased.has c

/-- The lower-case form of one character between `before`, nearest first, and `after`. -/
def lowerChar (before : List Char) (c : Char) (after : List Char) : List Char :=
  if c.toNat < 0x80 then [c.toLower]
  else if c = '\u0130' then ['i', '\u0307']
  else if c = '\u03a3' then
    if meetsCased before && !meetsCased after then ['\u03c2'] else ['\u03c3']
  else
    match caseRuns.findSome? (·.lower? c.toNat) with
    | some n => [Char.ofNat n]
    | none => [c]

/-- `lowerCase` of what follows `before`, nearest character first. -/
def lowerCaseFrom (before : List Char) : List Char → List Char
  | [] => []
  | c :: after => lowerChar before c after ++ lowerCaseFrom (c :: before) after

/-- The lower-case form of a text. -/
def lowerCase (text : List Char) : List Char := lowerCaseFrom [] text

end OpenApiClient.Text
