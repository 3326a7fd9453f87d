import OpenApiClient.Yaml.Event
import OpenApiClient.Yaml.Token.Queue

/-!
# The grammar of events

Events from tokens. What may come next is a state; the states that follow when a value is
complete wait on a stack, and the marks of the collections that are open on another.

* `nextEvent`: the event that comes next.
-/
namespace OpenApiClient.Yaml

/-- What may come next. -/
inductive Expected where
  | stream
  | firstDocument
  | document
  | documentContent
  | documentEnd
  | blockNode
  | blockEntry (first : Bool)
  | indentlessEntry
  | blockKey (first : Bool)
  | blockValue
  | flowEntry (first : Bool)
  | pairKey
  | pairValue
  | pairEnd
  | flowKey (first : Bool)
  | flowValue
  | flowEmptyValue
  | nothing
deriving DecidableEq, Repr

/-- What is known while events are made. -/
structure Parsing where
  scanning : Scanning := {}
  expected : Expected := .stream
  /-- What follows the value that is being read. -/
  later : List Expected := []
  /-- Where the collections begin that are open. -/
  marks : List Mark := []
  /-- What the handles of tags stand for. -/
  handles : List (String × String) := []

/-- A reader of tokens. -/
abbrev Parse := ReaderT (Array Char) (EStateM Problem Parsing)

variable {α : Type}

/-- Reads from the text. -/
def scan (reader : Scan α) : Parse α := fun text state =>
  match reader text state.scanning with
  | .ok value scanning => .ok value { state with scanning := scanning }
  | .error problem scanning => .error problem { state with scanning := scanning }

def upcoming : Parse Token := scan peekToken

/-- Takes a token and gives the one behind it. -/
def takeThenPeek : Parse Token := do
  scan dropToken
  scan peekToken

def expect (expected : Expected) : Parse Unit := modify ({ · with expected := expected })

/-- Notes what follows the value that is read next. -/
def push (expected : Expected) : Parse Unit :=
  modify fun state => { state with later := expected :: state.later }

/-- Goes on with what follows a value that is complete. -/
def pop : Parse Unit :=
  modify fun state =>
    match state.later with
    | [] => { state with expected := .nothing }
    | expected :: later => { state with expected := expected, later := later }

/-- Notes where a collection begins and takes its token. -/
def openAt (first : Bool) : Parse Unit := do
  if first then
    let token ← upcoming
    modify fun state => { state with marks := token.start :: state.marks }
    scan dropToken

/-- Ends a collection. -/
def close : Parse Unit := do
  pop
  modify fun state => { state with marks := state.marks.drop 1 }

/-- Fails at a token inside the innermost collection. -/
def failInside (activity : Activity) (fault : Fault) (token : Token) : Parse α := do
  let start := (← get).marks.head?.getD {}
  throw { fault := fault, mark := token.start, context := some (activity, start) }

/-- The event of a value that is left out. -/
def emptyScalar (mark : Mark) : Event := ⟨.scalar none ⟨"", .plain, none⟩, mark⟩

/-! ## Nodes -/

/-- What stands before a value. -/
structure Properties where
  anchor : Option String := none
  /-- The handle and the rest of a tag, and where the tag begins. -/
  tag : Option (String × String × Mark) := none
  /-- The mark of the first property, or of the value. -/
  start : Mark

/-- Reads an anchor and a tag in either order, and gives the token behind them. -/
def properties : Nat → Properties → Token → Parse (Properties × Token)
  | 0, read, token => pure (read, token)
  | fuel + 1, read, token =>
    match token.kind, read.anchor, read.tag with
    | .anchor name, none, _ => do
      properties fuel { read with anchor := some name } (← takeThenPeek)
    | .tag handle suffix, _, none => do
      properties fuel { read with tag := some (handle, suffix, token.start) } (← takeThenPeek)
    | _, _, _ => pure (read, token)

/-- The tag that is meant by a handle and a suffix. -/
def resolvedTag (read : Properties) : Parse (Option String) := do
  match read.tag with
  | none => pure none
  | some (handle, suffix, mark) =>
    if handle = "" then pure (some suffix)
    else
      match (← get).handles.lookup handle with
      | some start => pure (some (start ++ suffix))
      | none =>
        throw
          { fault := .undefinedHandle, mark := mark, context := some (.node, read.start) }

/-- The event of a scalar; the tag `!` says no more than that it is one. -/
def scalarEvent (read : Properties) (tag : Option String) (text : String)
    (style : ScalarStyle) : Event :=
  ⟨.scalar read.anchor ⟨text, style, tag.filter (· ≠ "!")⟩, read.start⟩

/-- A value: an alias, a scalar or the start of a collection. -/
def node (block indentless : Bool) : Parse Event := do
  let token ← upcoming
  match token.kind with
  | .aliasTo name =>
    pop
    scan dropToken
    pure ⟨.aliasTo name, token.start⟩
  | _ =>
    let (read, token) ← properties 2 { start := token.start } token
    let tag ← resolvedTag read
    let sequence (next : Expected) : Parse Event := do
      expect next
      pure ⟨.sequenceStart read.anchor tag, read.start⟩
    let mapping (next : Expected) : Parse Event := do
      expect next
      pure ⟨.mappingStart read.anchor tag, read.start⟩
    match token.kind, block, indentless with
    | .blockEntry, _, true => sequence .indentlessEntry
    | .scalar text style, _, _ =>
      pop
      scan dropToken
      pure (scalarEvent read tag text style)
    | .flowSequenceStart, _, _ => sequence (.flowEntry true)
    | .flowMappingStart, _, _ => mapping (.flowKey true)
    | .blockSequenceStart, true, _ => sequence (.blockEntry true)
    | .blockMappingStart, true, _ => mapping (.blockKey true)
    | _, _, _ =>
      if read.anchor.isSome || tag.isSome then
        pop
        pure ⟨.scalar read.anchor ⟨"", .plain, tag⟩, read.start⟩
      else
        let activity := if block then .blockNode else .flowNode
        throw { fault := .noNode, mark := token.start, context := some (activity, read.start) }

/-- A value, after which `later` follows. -/
def nodeThen (later : Expected) (block indentless : Bool) : Parse Event := do
  push later
  node block indentless

/-- A value that is left out, after which `later` follows. -/
def emptyThen (later : Expected) (mark : Mark) : Parse Event := do
  expect later
  pure (emptyScalar mark)

/-! ## Documents -/

/-- The handles that need no directive. -/
def defaultHandles : List (String × String) := [("!", "!"), ("!!", "tag:yaml.org,2002:")]

/-- Reads directives: whether a version has been seen, and the handles that have been. -/
def directives : Nat → Bool → List (String × String) → Parse (List (String × String))
  | 0, _, handles => pure handles
  | fuel + 1, versionSeen, handles => do
    let token ← upcoming
    match token.kind with
    | .version major minor =>
      if versionSeen then throw { fault := .repeatedVersion, mark := token.start }
      if major ≠ 1 || (minor ≠ 1 && minor ≠ 2) then
        throw { fault := .incompatibleVersion, mark := token.start }
      scan dropToken
      directives fuel true handles
    | .tagDirective handle start =>
      if (handles.lookup handle).isSome then
        throw { fault := .repeatedHandle, mark := token.start }
      scan dropToken
      directives fuel versionSeen (handles ++ [(handle, start)])
    | _ => pure handles

def readDirectives : Parse Unit := do
  let handles ← directives (← scan charsLeft) false []
  modify ({ · with handles := handles ++ defaultHandles })

/-- Passes the ends of documents. -/
def skipDocumentEnds : Nat → Parse Unit
  | 0 => pure ()
  | fuel + 1 => do
    if (← upcoming).kind = .documentEnd then
      scan dropToken
      skipDocumentEnds fuel

/-- The start of a document or the end of the stream. Only the first document needs no marker. -/
def documentStart (first : Bool) : Parse Event := do
  if !first then skipDocumentEnds (← scan charsLeft)
  let token ← upcoming
  let marked :=
    match token.kind with
    | .version .. | .tagDirective .. | .documentStart => true
    | _ => false
  if token.kind = .streamEnd then
    expect .nothing
    scan dropToken
    pure ⟨.streamEnd, token.start⟩
  else if first && !marked then
    readDirectives
    push .documentEnd
    expect .blockNode
    pure ⟨.documentStart, token.start⟩
  else
    readDirectives
    let marker ← upcoming
    if marker.kind ≠ .documentStart then
      throw { fault := .noDocumentStart, mark := marker.start }
    push .documentEnd
    expect .documentContent
    scan dropToken
    pure ⟨.documentStart, token.start⟩

/-- The value of a document, which may be left out. -/
def documentContent : Parse Event := do
  let token ← upcoming
  match token.kind with
  | .version .. | .tagDirective .. | .documentStart | .documentEnd | .streamEnd =>
    pop
    pure (emptyScalar token.start)
  | _ => node true false

def documentEnd : Parse Event := do
  let token ← upcoming
  if token.kind = .documentEnd then scan dropToken
  modify ({ · with handles := [] })
  expect .document
  pure ⟨.documentEnd, token.start⟩

/-! ## Collections in block style -/

/-- Whether a token ends a value of a mapping in block style, or shows that there is none. -/
def endsBlockPart (token : Token) : Bool :=
  token.kind = .key || token.kind = .value || token.kind = .blockEnd

def blockEntry (first : Bool) : Parse Event := do
  openAt first
  let token ← upcoming
  match token.kind with
  | .blockEntry =>
    let next ← takeThenPeek
    if next.kind = .blockEntry || next.kind = .blockEnd then
      emptyThen (.blockEntry false) token.stop
    else nodeThen (.blockEntry false) true false
  | .blockEnd =>
    close
    scan dropToken
    pure ⟨.sequenceEnd, token.start⟩
  | _ => failInside .blockCollection .noDash token

/-- An entry of a sequence that is not indented further than the key before it. -/
def indentlessEntry : Parse Event := do
  let token ← upcoming
  if token.kind = .blockEntry then
    let next ← takeThenPeek
    if next.kind = .blockEntry || endsBlockPart next then
      emptyThen .indentlessEntry token.stop
    else nodeThen .indentlessEntry true false
  else
    pop
    pure ⟨.sequenceEnd, token.start⟩

def blockKey (first : Bool) : Parse Event := do
  openAt first
  let token ← upcoming
  match token.kind with
  | .key =>
    let next ← takeThenPeek
    if endsBlockPart next then emptyThen .blockValue token.stop
    else nodeThen .blockValue true true
  | .blockEnd =>
    close
    scan dropToken
    pure ⟨.mappingEnd, token.start⟩
  | _ => failInside .blockMapping .noKey token

def blockValue : Parse Event := do
  let token ← upcoming
  if token.kind = .value then
    let next ← takeThenPeek
    if endsBlockPart next then emptyThen (.blockKey false) token.stop
    else nodeThen (.blockKey false) true true
  else emptyThen (.blockKey false) token.start

/-! ## Collections in flow style -/

/-- The token of an entry or the end, behind the comma that must stand before every entry but
the first. -/
def flowToken (first : Bool) (ending : TokenKind) (activity : Activity) (fault : Fault) :
    Parse Token := do
  openAt first
  let token ← upcoming
  if first || token.kind = ending then pure token
  else if token.kind = .flowEntry then takeThenPeek
  else failInside activity fault token

def flowEntry (first : Bool) : Parse Event := do
  let token ← flowToken first .flowSequenceEnd .flowSequence .noCommaOrBracket
  match token.kind with
  | .flowSequenceEnd =>
    close
    scan dropToken
    pure ⟨.sequenceEnd, token.start⟩
  | .key =>
    expect .pairKey
    scan dropToken
    pure ⟨.mappingStart none none, token.start⟩
  | _ => nodeThen (.flowEntry false) false false

/-- The key of a pair that stands in a sequence without braces. -/
def pairKey : Parse Event := do
  let token ← upcoming
  match token.kind with
  | .value | .flowEntry | .flowSequenceEnd =>
    scan dropToken
    emptyThen .pairValue token.stop
  | _ => nodeThen .pairValue false false

def pairValue : Parse Event := do
  let token ← upcoming
  if token.kind = .value then
    let next ← takeThenPeek
    if next.kind = .flowEntry || next.kind = .flowSequenceEnd then
      emptyThen .pairEnd next.start
    else nodeThen .pairEnd false false
  else emptyThen .pairEnd token.start

def pairEnd : Parse Event := do
  expect (.flowEntry false)
  return ⟨.mappingEnd, (← upcoming).start⟩

/-- Whether a token ends an entry of a mapping in flow style. -/
def endsFlowPart (token : Token) : Bool :=
  token.kind = .flowEntry || token.kind = .flowMappingEnd

def flowKey (first : Bool) : Parse Event := do
  let token ← flowToken first .flowMappingEnd .flowMapping .noCommaOrBrace
  match token.kind with
  | .flowMappingEnd =>
    close
    scan dropToken
    pure ⟨.mappingEnd, token.start⟩
  | .key =>
    let next ← takeThenPeek
    if next.kind = .value || endsFlowPart next then emptyThen .flowValue next.start
    else nodeThen .flowValue false false
  | _ => nodeThen .flowEmptyValue false false

def flowValue : Parse Event := do
  let token ← upcoming
  if token.kind = .value then
    let next ← takeThenPeek
    if endsFlowPart next then emptyThen (.flowKey false) next.start
    else nodeThen (.flowKey false) false false
  else emptyThen (.flowKey false) token.start

/-! ## Events -/

def streamStart : Parse Event := do
  let token ← upcoming
  expect .firstDocument
  scan dropToken
  pure ⟨.streamStart, token.start⟩

/-- The event that comes next. -/
def nextEvent : Parse Event := do
  match (← get).expected with
  | .stream => streamStart
  | .firstDocument => documentStart true
  | .document => documentStart false
  | .documentContent => documentContent
  | .documentEnd => documentEnd
  | .blockNode => node true false
  | .blockEntry first => blockEntry first
  | .indentlessEntry => indentlessEntry
  | .blockKey first => blockKey first
  | .blockValue => blockValue
  | .flowEntry first => flowEntry first
  | .pairKey => pairKey
  | .pairValue => pairValue
  | .pairEnd => pairEnd
  | .flowKey first => flowKey first
  | .flowValue => flowValue
  | .flowEmptyValue => do emptyThen (.flowKey false) (← upcoming).start
  | .nothing => return ⟨.streamEnd, (← get).scanning.mark⟩

end OpenApiClient.Yaml
