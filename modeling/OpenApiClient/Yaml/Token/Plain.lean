import OpenApiClient.Yaml.Cursor

/-!
# Plain scalars

Scalars without quotes. They end before a colon that a blank follows, before a comment, at a line
that is not indented enough, and inside flow collections at the brackets and commas of these.
-/
namespace OpenApiClient.Yaml

/-- The characters that end a plain scalar inside a flow collection. -/
def isFlowIndicator (c : Char) : Bool := ",[]\x7b\x7d".toList.contains c

/-- The characters up to one that may end the scalar; the last stand first. -/
def plainWord (start : Mark) (inFlow : Bool) : Nat → List Char → Scan (List Char)
  | 0, word => pure word
  | fuel + 1, word => do
    let c ← nextChar
    let next ← charAhead 1
    if isBlankOrEnd c then pure word
    else if inFlow && c = ':' && (next = '?' || isFlowIndicator next) then
      failScan .plainScalar start .unexpectedColon
    else if (c = ':' && isBlankOrEnd next) || (inFlow && isFlowIndicator c) then pure word
    else
      advance 1
      plainWord start inFlow fuel (c :: word)

/-- The blanks and line breaks that come next; a tab may not stand where a line is indented. -/
def plainGap (start : Mark) (indent : Int) : Nat → Gap → Scan Gap
  | 0, gap => pure gap
  | fuel + 1, gap => do
    let c ← nextChar
    if isBlank c then
      if gap.broken && ((← currentMark).column : Int) < indent && c = '\t' then
        failScan .plainScalar start .tabBeforeIndentation
      advance 1
      plainGap start indent fuel (gap.withBlank c)
    else if isBreak c then
      let kept ← takeBreak
      plainGap start indent fuel (gap.withBreak kept)
    else pure gap

/-- A plain scalar while it is read. -/
structure PlainText where
  /-- The last characters stand first. -/
  text : List Char
  /-- The mark behind the last of them. -/
  stop : Mark
  /-- What follows them. -/
  gap : Gap

/-- Reads words and the gaps between them. -/
def plainLines (start : Mark) (indent : Int) (inFlow : Bool) :
    Nat → PlainText → Scan PlainText
  | 0, plain => pure plain
  | fuel + 1, plain => do
    if (← atDocumentMarker) || (← nextChar) = '#' then pure plain
    else
      let word ← plainWord start inFlow (← charsLeft) []
      let plain : PlainText ←
        if word.isEmpty then pure plain
        else pure ⟨word ++ plain.gap.folded.reverse ++ plain.text, ← currentMark, {}⟩
      let c ← nextChar
      if !(isBlank c || isBreak c) then pure plain
      else
        let gap ← plainGap start indent (← charsLeft) plain.gap
        let plain := { plain with gap := gap }
        if !inFlow && ((← currentMark).column : Int) < indent then pure plain
        else plainLines start indent inFlow fuel plain

/-- The token of a plain scalar. A key may follow it if it ends on a later line. -/
def plainToken : Scan Token := do
  let start ← currentMark
  let state ← get
  let plain ← plainLines start (state.indent + 1) state.inFlow (← charsLeft) ⟨[], start, {}⟩
  if plain.gap.broken then modify ({ · with keyAllowed := true })
  pure ⟨.scalar (String.ofList plain.text.reverse) .plain, start, plain.stop⟩

end OpenApiClient.Yaml
