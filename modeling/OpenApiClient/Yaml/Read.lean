import OpenApiClient.Written.Reading
import OpenApiClient.Yaml.Document
import OpenApiClient.Yaml.Scalar

/-!
# Reading YAML documents

Reading the parts of a YAML document by the shape of a document. Aliases are followed where they
stand. Any scalar is a text; an empty one may stand for an empty list, table or record. Values
that are kept may be nested 128 deep, and aliases may not be followed too often.

* `readShape`: a value of a given shape.
* `readDocument`: the document in a text.
-/
namespace OpenApiClient.Yaml

/-- How deeply values that are kept may be nested. -/
def depthLimit : Nat := 128

/-- How often aliases may be followed for each part of a document. -/
def aliasLimit : Nat := 100

/-! ## Failures -/

/-- What is wrong with a value. -/
inductive ValueFault where
  | mismatch (found : Found) (expected : String)
  | contrary (text expected : String)
  | repeatedField (key : String)
  | noTypeNames
  | localTag
deriving DecidableEq, Repr

def ValueFault.message : ValueFault → String
  | mismatch found expected => mismatchMessage (found.name "unit value") expected
  | contrary text expected =>
    "invalid value: string " ++ String.ofList (Text.shown text.toList) ++ ", expected " ++ expected
  | repeatedField key => repeatedFieldMessage key
  | noTypeNames => noTypeNamesMessage
  | localTag => "untagged and internally tagged enums do not support enum input"

/-- Why a text is refused as a document. -/
inductive Cause where
  /-- A value is wrong; with the value that the message names, once it is known. -/
  | value (fault : ValueFault) (named : Option (Place × Mark))
  | tooDeep (mark : Mark)
  | tooManyAliases
  | ended (cut : Cut)
  | tooFewParts
  | severalDocuments

def Cause.message : Cause → String
  | value fault none => fault.message
  | value fault (some (place, mark)) =>
    (if place.isEmpty then "" else place.text ++ ": ") ++ fault.message ++ mark.text
  | tooDeep mark => "recursion limit exceeded" ++ mark.text
  | tooManyAliases => "repetition limit exceeded"
  | ended cut => cut.message
  | tooFewParts => "EOF while parsing a value"
  | severalDocuments =>
    "deserializing from YAML containing more than one document is not supported"

/-- A failure, and the place in the document where it happens. -/
structure Failure where
  place : Place
  cause : Cause

def Failure.message (failure : Failure) : String :=
  "invalid OpenAPI YAML document: " ++ failure.place.lead ++ failure.cause.message

/-! ## Readers -/

/-- What a reader knows. A value is named by keys that stand in the text itself, and not by keys
that an alias stands for; so its place has two forms. -/
structure Context where
  parts : Parts
  place : Place := []
  named : Place := []

/-- How many parts have been read, and how many aliases followed. -/
structure Progress where
  position : Nat := 0
  followed : Nat := 0

/-- A reader of parts. -/
abbrev Reader := ReaderT Context (EStateM Failure Progress)

variable {α : Type}

def failWith (cause : Cause) : Reader α := fun context => throw ⟨context.place, cause⟩

/-- Fails because of a value that is named later. -/
def fail (fault : ValueFault) : Reader α := failWith (.value fault none)

/-- Reads one step further into the document. -/
def inside (step named : Step) (reader : Reader α) : Reader α := fun context =>
  reader { context with place := step :: context.place, named := named :: context.named }

/-- Reads a key, which no step leads to that a message about a value names. -/
def insideKey (reader : Reader α) : Reader α := fun context =>
  reader { context with place := .unknown :: context.place }

/-- A failure with the value named that begins at `mark`, if none is named yet. -/
def Failure.naming (failure : Failure) (named : Place) (mark : Mark) : Failure :=
  match failure.cause with
  | .value fault none => { failure with cause := .value fault (some (named, mark)) }
  | _ => failure

/-- Names the value that begins at `mark` in failures of the reader. -/
def naming (mark : Mark) (reader : Reader α) : Reader α := fun context progress =>
  match reader context progress with
  | .ok value progress => .ok value progress
  | .error failure progress => .error (failure.naming context.named mark) progress

/-- The part that comes next. -/
def peekPart : Reader (Part × Mark) := do
  let parts := (← read).parts
  match parts.parts[(← get).position]? with
  | some part => pure part
  | none =>
    match parts.cut with
    | some cut => failWith (.ended cut)
    | none => failWith .tooFewParts

def skipPart : Reader Unit :=
  modify fun progress => { progress with position := progress.position + 1 }

/-- Reads where an anchor stands, and goes on behind the alias. -/
def jump (anchor : Nat) (reader : Reader α) : Reader α := do
  let parts := (← read).parts
  let progress ← get
  if aliasLimit * parts.parts.size < progress.followed + 1 then failWith .tooManyAliases
  set (⟨(parts.targets.lookup anchor).getD progress.position, progress.followed + 1⟩ : Progress)
  let value ← reader
  modify fun after => { after with position := progress.position }
  pure value

/-- Takes the next part and reads what it begins, or what an alias stands for. -/
def following (reader : Part → Mark → Reader α) : Reader α := do
  let (part, mark) ← peekPart
  skipPart
  match part with
  | .aliasTo anchor =>
    jump anchor do
      let (part, mark) ← peekPart
      skipPart
      reader part mark
  | part => reader part mark

/-- How many parts there are, and some more. -/
def fuel : Reader Nat := do return (← read).parts.parts.size + 2

/-- What is read with `nested`, the reader of values one level deeper, if there may be any. -/
def within {β : Type} (nested : Option β) (mark : Mark) (reader : β → Reader α) : Reader α :=
  match nested with
  | none => failWith (.tooDeep mark)
  | some nested => reader nested

/-! ## Passing values -/

/-- Passes parts until as many collections have ended as are open. -/
def skipParts : Nat → Nat → Reader Unit
  | 0, _ => pure ()
  | fuel + 1, opened => do
    let (part, _) ← peekPart
    skipPart
    let opened :=
      match part with
      | .sequenceStart _ | .mappingStart _ => opened + 1
      | .sequenceEnd | .mappingEnd => opened - 1
      | _ => opened
    if opened ≠ 0 then skipParts fuel opened

/-- Passes a value; its aliases are not followed. -/
def skipValue : Reader Unit := do skipParts (← fuel) 0

/-! ## Sequences and mappings -/

/-- The items of a sequence from the `index`-th on, and its end. -/
def itemsFrom (item : Reader α) : Nat → Nat → Reader (List α)
  | 0, _ => pure []
  | fuel + 1, index => do
    if (← peekPart).1 = .sequenceEnd then
      skipPart
      pure []
    else
      let first ← inside (.index index) (.index index) item
      return first :: (← itemsFrom item fuel (index + 1))

def items (item : Reader α) : Reader (List α) := do itemsFrom item (← fuel) 0

/-- The kind and the text of what a scalar, a sequence or a mapping begins with. -/
def mismatched (part : Part) (expected : String) : Reader α :=
  match part with
  | .scalar value =>
    match value.meaning with
    | .found found => fail (.mismatch found expected)
    | .contrary text expected => fail (.contrary text expected)
  | .sequenceStart _ => fail (.mismatch .list expected)
  | .mappingStart _ => fail (.mismatch .table expected)
  | _ => failWith .tooFewParts

/-- A text where `expected` is expected. -/
def readText (expected : String) : Reader String :=
  following fun part mark => naming mark (
    match part with
    | .scalar value => pure value.text
    | part => mismatched part expected)

/-- The next key of a mapping, if there is one, as it is and as messages name its value. -/
def readKey (expected : String) : Reader (Option (String × Step)) := insideKey do
  match (← peekPart).1 with
  | .mappingEnd =>
    skipPart
    pure none
  | .scalar value =>
    skipPart
    pure (some (value.text, .key value.text))
  | _ => return some (← readText expected, .unknown)

/-- The entries of a mapping after those that are `known`, the last first; `value` reads the
value of a key and may leave it out. -/
def entriesAfter (expected : String) (value : List (String × α) → String → Step →
    Reader (Option α)) : Nat → List (String × α) → Reader (List (String × α))
  | 0, known => pure known
  | fuel + 1, known => do
    match ← readKey expected with
    | none => pure known
    | some (key, named) =>
      match ← value known key named with
      | none => entriesAfter expected value fuel known
      | some read => entriesAfter expected value fuel ((key, read) :: known)

/-- The entries of a mapping in their order, and its end. -/
def entries (expected : String) (value : List (String × α) → String → Step →
    Reader (Option α)) : Reader (List (String × α)) := do
  return (← entriesAfter expected value (← fuel) []).reverse

/-! ## Type names -/

/-- Any value, as far as it may name types. -/
inductive AnyValue where
  | text (value : String)
  | list (items : List AnyValue)
  | other

def AnyValue.text? : AnyValue → Option String
  | .text value => some value
  | _ => none

def AnyValue.typeNames? : AnyValue → Option TypeNames
  | .text value => some (.one value)
  | .list items => (items.mapM AnyValue.text?).map .several
  | .other => none

/-- Whether a value has a tag of the document's own. -/
def hasLocalTag : Part → Bool
  | .scalar value => isLocalTag value.tag
  | .sequenceStart tag => isLocalTag tag
  | .mappingStart tag => isLocalTag tag
  | _ => false

/-- A scalar as any value; numbers of more than 64 bits are no values. -/
def anyScalar (value : ScalarValue) : Reader AnyValue :=
  match value.meaning with
  | .found (.text text) => pure (.text text)
  | .found (.wideInteger digits negative) =>
    fail (.mismatch (.wideInteger digits negative) "any value")
  | .found _ => pure .other
  | .contrary text expected => fail (.contrary text expected)

/-- Any value, its parts being read by `nested`. -/
def anyValue (nested : Option (Reader AnyValue)) (part : Part) (mark : Mark) :
    Reader AnyValue :=
  naming mark do
    if hasLocalTag part then fail .localTag
    match part with
    | .scalar value => anyScalar value
    | .sequenceStart _ => within nested mark fun nested => return .list (← items nested)
    | .mappingStart _ =>
      within nested mark fun nested => do
        let _ ← entries "any value" fun _ key named =>
          inside (.key key) named (some <$> nested)
        pure .other
    | _ => pure .other

/-- Any value, nested at most `depth` deep. -/
def readAny : Nat → Part → Mark → Reader AnyValue
  | 0 => anyValue none
  | depth + 1 => anyValue (some (following (readAny depth)))

/-! ## Values of a given shape -/

/-- Reads what a part begins. -/
abbrev PartReader := Shape → Part → Mark → Reader Reading

/-- Whether a part stands for null. A text with the tag of null must be a form of it. -/
def isNull : Part → Reader Bool
  | .scalar value =>
    if value.style ≠ .plain then pure false
    else
      match value.tag with
      | none => pure (value.text = "" || isNullWord value.text)
      | some tag =>
        if tag ≠ coreTag "null" then pure false
        else if isNullWord value.text then pure true
        else fail (.contrary value.text "null")
  | .nothing => pure true
  | _ => pure false

/-- The value of a field, `none` if it is null and may be so. -/
def fieldValue (readPart : PartReader) (field : RecordField) : Reader (Option Reading) :=
  following fun part mark => do
    if field.nullable && (← isNull part) then pure none
    else some <$> readPart field.shape part mark

/-- The fields of a record from a mapping. A field may be null, but it may not occur twice. -/
def fields (readPart : PartReader) (kind : Kind) : Reader (List (String × Option Reading)) :=
  entries "field identifier" fun known key named =>
    match kind.field? key with
    | none => do
      inside (.key key) named skipValue
      pure none
    | some field => do
      if (known.lookup key).isSome then fail (.repeatedField key)
      return some (← inside (.key key) named (fieldValue readPart field))

/-- The entries that have a value. -/
def present (entries : List (String × Option Reading)) : List (String × Reading) :=
  entries.filterMap fun (key, value) => value.map (key, ·)

/-- A list of records. -/
def readList (kind : Kind) (readPart : PartReader) : Reader Reading := do
  return .list (← items (following (readPart (.record kind))))

/-- A table of records. -/
def readTable (kind : Kind) (readPart : PartReader) : Reader Reading := do
  let read ← entries "a string" fun _ key named =>
    inside (.key key) named (some <$> following (readPart (.record kind)))
  pure (.entries (putAll read))

def readRecord (kind : Kind) (readPart : PartReader) : Reader Reading := do
  return .entries (present (← fields readPart kind))

/-- Whether a part stands for an empty collection. -/
def isEmptyPart : Part → Bool
  | .scalar value => value.isEmpty
  | .nothing => true
  | _ => false

/-- A value other than type names; `nested` reads what is inside it. -/
def valueOfShape (nested : Option PartReader) (shape : Shape) (part : Part) (mark : Mark) :
    Reader Reading :=
  match shape, part with
  | .text, .scalar value => pure (.text value.text)
  | .flag, .scalar value =>
    match value.flag? with
    | some flag => pure (.flag flag)
    | none => mismatched part shape.expectation
  | .list kind, .sequenceStart _ => within nested mark (readList kind)
  | .table kind, .mappingStart _ => within nested mark (readTable kind)
  | .record kind, .mappingStart _ => within nested mark (readRecord kind)
  | .list _, part =>
    if isEmptyPart part then pure (.list []) else mismatched part shape.expectation
  | .table _, part =>
    if isEmptyPart part then pure (.entries []) else mismatched part shape.expectation
  | .record _, part =>
    if isEmptyPart part then pure (.entries []) else mismatched part shape.expectation
  | shape, part => mismatched part shape.expectation

/-- A value of the given shape; `any` reads any value. Type names that are none are a fault of
the record around them. -/
def partOfShape (any : Part → Mark → Reader AnyValue) (nested : Option PartReader) :
    PartReader := fun shape part mark =>
  match shape with
  | .typeNames => do
    match (← any part mark).typeNames? with
    | some names => pure (.typeNames names)
    | none => fail .noTypeNames
  | shape => naming mark (valueOfShape nested shape part mark)

/-- A value of the given shape, nested at most `depth` deep. -/
def readShape : Nat → PartReader
  | 0 => partOfShape (readAny 0) none
  | depth + 1 => partOfShape (readAny (depth + 1)) (some (readShape depth))

/-! ## Documents -/

/-- The document in a text. -/
def readDocument (bytes : ByteArray) : Except Failure WrittenDocument :=
  let parts := partsOf bytes
  match following (readShape depthLimit (.record .document)) { parts := parts } {} with
  | .error failure _ => .error failure
  | .ok reading _ =>
    match parts.cut with
    | some cut => .error ⟨[], .ended cut⟩
    | none => if parts.more then .error ⟨[], .severalDocuments⟩ else .ok reading.document

end OpenApiClient.Yaml
