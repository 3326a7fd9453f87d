import OpenApiClient.Yaml.Token.Block
import OpenApiClient.Yaml.Token.Plain
import OpenApiClient.Yaml.Token.Property
import OpenApiClient.Yaml.Token.Quoted

/-!
# The queue of tokens

Tokens are found one after the other and wait in a queue until they are taken. A colon can turn
what stands before it on its line into a key; the tokens that say so are put into the queue where
the key begins. So the first token of the queue is not taken before it is settled that no key
begins there.

* `peekToken`, `dropToken`: the two operations that readers of tokens use.
-/
namespace OpenApiClient.Yaml

/-- How long a key without an indicator may be. -/
def keyLimit : Nat := 1024

/-! ## Keys -/

/-- Whether a key that began at `key` can no longer end at `mark`: it must be within a line and
within a limit. -/
def SimpleKey.isStale (key : SimpleKey) (mark : Mark) : Bool :=
  key.mark.line < mark.line || key.mark.index + keyLimit < mark.index

/-- Gives up a possible key if it is stale; a required one must not be given up. -/
def withoutStale (mark : Mark) : Option SimpleKey → Scan (Option SimpleKey)
  | none => pure none
  | some key =>
    if key.isStale mark then
      if key.required then failScan .simpleKey key.mark .noColon else pure none
    else pure (some key)

/-- Gives up all stale keys. -/
def dropStaleKeys : Scan Unit := do
  let state ← get
  let around ← state.around.mapM (withoutStale state.mark)
  let possible ← withoutStale state.mark state.possible
  modify ({ · with possible := possible, around := around })

/-- Gives up the innermost possible key. -/
def dropKey : Scan Unit := do
  match (← get).possible with
  | none => pure ()
  | some key =>
    if key.required then failScan .simpleKey key.mark .noColon
    modify ({ · with possible := none })

/-- Notes that a key may begin here. -/
def noteKey : Scan Unit := do
  let state ← get
  if state.keyAllowed then
    let required := !state.inFlow && state.indent = state.mark.column
    dropKey
    modify ({ · with
      possible := some ⟨required, state.taken + state.queue.length, state.mark⟩ })

def allowKey (allowed : Bool) : Scan Unit := modify ({ · with keyAllowed := allowed })

/-! ## Indentation -/

/-- Puts a token at the end of the queue. -/
def enqueue (token : Token) : Scan Unit :=
  modify fun state => { state with queue := state.queue ++ [token] }

/-- Puts a token before the one with the given number. -/
def enqueueAt (number : Nat) (token : Token) : Scan Unit :=
  modify fun state =>
    let place := number - state.taken
    { state with queue := state.queue.take place ++ token :: state.queue.drop place }

/-- Opens a block collection if the column is further in than the innermost one; `put` places
its token. -/
def openBlock (mark : Mark) (kind : TokenKind) (put : Token → Scan Unit) : Scan Unit := do
  let state ← get
  if !state.inFlow && state.indent < mark.column then
    modify ({ · with indent := mark.column, outer := state.indent :: state.outer })
    put ⟨kind, mark, mark⟩

/-- The columns that stay when those further in than `column` are closed, and how many are. -/
def closedBlocks (column : Int) : Int → List Int → Int × List Int × Nat
  | indent, [] => (indent, [], 0)
  | indent, next :: outer =>
    if column < indent then
      let (indent, outer, count) := closedBlocks column next outer
      (indent, outer, count + 1)
    else (indent, next :: outer, 0)

/-- Closes the block collections that are further in than a column. -/
def closeBlocks (column : Int) : Scan Unit := do
  let state ← get
  if !state.inFlow then
    let (indent, outer, count) := closedBlocks column state.indent state.outer
    let token : Token := ⟨.blockEnd, state.mark, state.mark⟩
    set { state with
      indent := indent, outer := outer, queue := state.queue ++ List.replicate count token }

/-! ## Single tokens -/

/-- Puts a token of `length` characters into the queue. -/
def enqueueChars (length : Nat) (kind : TokenKind) : Scan Unit := do
  let start ← currentMark
  advance length
  enqueue ⟨kind, start, ← currentMark⟩

def findStreamEnd : Scan Unit := do
  modify fun state =>
    if state.mark.column = 0 then state
    else { state with mark := ⟨state.mark.index, state.mark.line + 1, 0⟩ }
  closeBlocks (-1)
  dropKey
  allowKey false
  enqueueChars 0 .streamEnd

def findDirective : Scan Unit := do
  closeBlocks (-1)
  dropKey
  allowKey false
  enqueue (← directiveToken)

def findDocumentMarker (kind : TokenKind) : Scan Unit := do
  closeBlocks (-1)
  dropKey
  allowKey false
  enqueueChars 3 kind

def findFlowStart (kind : TokenKind) : Scan Unit := do
  noteKey
  modify fun state => { state with possible := none, around := state.possible :: state.around }
  allowKey true
  enqueueChars 1 kind

def findFlowEnd (kind : TokenKind) : Scan Unit := do
  dropKey
  modify fun state =>
    match state.around with
    | [] => state
    | possible :: around => { state with possible := possible, around := around }
  allowKey false
  enqueueChars 1 kind

def findFlowEntry : Scan Unit := do
  dropKey
  allowKey true
  enqueueChars 1 .flowEntry

def findBlockEntry : Scan Unit := do
  let state ← get
  if !state.inFlow then
    if !state.keyAllowed then failHere .entryNotAllowed
    openBlock state.mark .blockSequenceStart enqueue
  dropKey
  allowKey true
  enqueueChars 1 .blockEntry

def findKey : Scan Unit := do
  let state ← get
  if !state.inFlow then
    if !state.keyAllowed then failHere .keyNotAllowed
    openBlock state.mark .blockMappingStart enqueue
  dropKey
  allowKey (!state.inFlow)
  enqueueChars 1 .key

/-- A colon. What may have been a key is one now. -/
def findValue : Scan Unit := do
  let state ← get
  match state.possible with
  | some key =>
    enqueueAt key.token ⟨.key, key.mark, key.mark⟩
    openBlock key.mark .blockMappingStart (enqueueAt key.token)
    modify ({ · with possible := none })
    allowKey false
  | none =>
    if !state.inFlow then
      if !state.keyAllowed then failHere .valueNotAllowed
      openBlock state.mark .blockMappingStart enqueue
    allowKey (!state.inFlow)
  enqueueChars 1 .value

/-- A token that may be a key or the start of one. -/
def findNode (token : Scan Token) : Scan Unit := do
  noteKey
  allowKey false
  enqueue (← token)

def findBlockScalar (literal : Bool) : Scan Unit := do
  dropKey
  allowKey true
  enqueue (← blockToken literal)

/-! ## Finding tokens -/

/-- Passes blanks, comments and line breaks. A tab may not stand where a key may begin. -/
def skipToToken : Nat → Scan Unit
  | 0 => pure ()
  | fuel + 1 => do
    if (← currentMark).column = 0 && isByteOrderMark (← nextChar) then advance 1
    let state ← get
    skipChars fun c => c = ' ' || ((state.inFlow || !state.keyAllowed) && c = '\t')
    skipComment
    if isBreak (← nextChar) then
      let _ ← takeBreak
      if !state.inFlow then allowKey true
      skipToToken fuel

/-- The characters that begin no plain scalar. -/
def isIndicator (c : Char) : Bool := "-?:,[]\x7b\x7d#&*!|>\x27\x22%@\x60".toList.contains c

/-- Whether a plain scalar begins with a character that `next` follows. -/
def beginsPlain (inFlow : Bool) (c next : Char) : Bool :=
  !(isBlankOrEnd c || isIndicator c) || (c = '-' && !isBlank next) ||
    (!inFlow && (c = '?' || c = ':') && !isBlankOrEnd next)

/-- Finds the token that begins with a character at the given column. -/
def findTokenAt (column : Nat) (inFlow : Bool) (c next : Char) : Scan Unit := do
  if isEnd c then findStreamEnd
  else if column = 0 && c = '%' then findDirective
  else if column = 0 && (← markerFollows '-') then findDocumentMarker .documentStart
  else if column = 0 && (← markerFollows '.') then findDocumentMarker .documentEnd
  else
    match c with
    | '[' => findFlowStart .flowSequenceStart
    | '\x7b' => findFlowStart .flowMappingStart
    | ']' => findFlowEnd .flowSequenceEnd
    | '\x7d' => findFlowEnd .flowMappingEnd
    | ',' => findFlowEntry
    | '*' => findNode (anchorToken .aliasName .aliasTo)
    | '&' => findNode (anchorToken .anchorName .anchor)
    | '!' => findNode tagToken
    | '\x27' => findNode (quotedToken '\x27')
    | '\x22' => findNode (quotedToken '\x22')
    | c =>
      if c = '-' && isBlankOrEnd next then findBlockEntry
      else if c = '?' && (inFlow || isBlankOrEnd next) then findKey
      else if c = ':' && (inFlow || isBlankOrEnd next) then findValue
      else if c = '|' && !inFlow then findBlockScalar true
      else if c = '>' && !inFlow then findBlockScalar false
      else if beginsPlain inFlow c next then findNode plainToken
      else do failScan .nextToken (← currentMark) .strayCharacter

/-- Finds the next token. -/
def findToken : Scan Unit := do
  if !(← get).started then
    modify ({ · with started := true, keyAllowed := true })
    enqueueChars 0 .streamStart
  else
    skipToToken (← charsLeft)
    dropStaleKeys
    closeBlocks (← currentMark).column
    let state ← get
    findTokenAt state.mark.column state.inFlow (← nextChar) (← charAhead 1)

/-! ## Taking tokens -/

/-- Whether a key may begin at the first token of the queue. -/
def keyAtFront : Scan Bool := do
  let state ← get
  pure ((state.possible :: state.around).any fun key => key.any (·.token = state.taken))

/-- Finds tokens until the first of the queue is settled. -/
def settleFront : Nat → Scan Unit
  | 0 => pure ()
  | fuel + 1 => do
    if (← get).queue.isEmpty then
      findToken
      settleFront fuel
    else
      dropStaleKeys
      if ← keyAtFront then
        findToken
        settleFront fuel

/-- The token that comes next. Behind the end of the stream there is only its end. -/
def peekToken : Scan Token := do
  if !(← get).settled then
    settleFront (← charsLeft)
    modify ({ · with settled := true })
  let state ← get
  pure (state.queue.head?.getD ⟨.streamEnd, state.mark, state.mark⟩)

/-- Takes the token that comes next. -/
def dropToken : Scan Unit :=
  modify fun state =>
    { state with queue := state.queue.drop 1, taken := state.taken + 1, settled := false }

end OpenApiClient.Yaml
