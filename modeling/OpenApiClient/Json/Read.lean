import OpenApiClient.Json.Skip
import OpenApiClient.Written.Reading

/-!
# Reading JSON documents

Reading a JSON text by the shape of a document. A record is written as an object, whose unknown
keys are passed, or as a list of the values of its fields in their order. Values that are kept
may be nested 127 deep.

* `readShape`: a value of a given shape.
* `readDocument`: the document in a text.
-/
namespace OpenApiClient.Json

variable {α : Type}

/-- How deeply values that are kept may be nested. -/
def depthLimit : Nat := 127

/-! ## Lists and objects -/

/-- Whether a list goes on; `first` if nothing has been read of it. -/
def itemFollows (first : Bool) : Reader Bool := do
  match ← peekVisible with
  | none => failAtNext .endInList
  | some byte =>
    if byte = byteOf ']' then pure false
    else if first then pure true
    else if byte = byteOf ',' then
      skipByte
      match ← peekVisible with
      | none => failAtNext .endInValue
      | some byte => if byte = byteOf ']' then failAtNext .trailingComma else pure true
    else failAtNext .noCommaInList

/-- Whether an object goes on, and then with the quote of a key. -/
def keyFollows (first : Bool) : Reader Bool := do
  match ← peekVisible with
  | none => failAtNext .endInObject
  | some byte =>
    if byte = byteOf '\x7d' then pure false
    else if first then
      if byte = byteOf '\x22' then pure true else failAtNext .keyIsNoText
    else if byte = byteOf ',' then
      skipByte
      match ← peekVisible with
      | none => failAtNext .endInValue
      | some byte =>
        if byte = byteOf '\x22' then pure true
        else failAtNext (if byte = byteOf '\x7d' then .trailingComma else .keyIsNoText)
    else failAtNext .noCommaInObject

/-- The next key of an object. -/
def readKey (first : Bool) : Reader (Option String) := inside .unknown do
  if ← keyFollows first then
    skipByte
    return some (← readText)
  else pure none

/-- Passes the end of a list. -/
def endList : Reader Unit := do
  match ← peekVisible with
  | none => failAtNext .endInList
  | some byte =>
    if byte = byteOf ']' then skipByte
    else if byte = byteOf ',' then
      skipByte
      let after ← peekVisible
      failAtNext (if after = some (byteOf ']') then .trailingComma else .trailingCharacters)
    else failAtNext .trailingCharacters

/-- Passes the end of an object. -/
def endObject : Reader Unit := do
  match ← peekVisible with
  | none => failAtNext .endInObject
  | some byte =>
    if byte = byteOf '\x7d' then skipByte
    else if byte = byteOf ',' then failAtNext .trailingComma
    else failAtNext .trailingCharacters

/-- What is inside brackets. The end is passed even after a failure inside, which goes before a
failure at the end. -/
def enclosed (content : Reader α) (ending : Reader Unit) : Reader α := do
  skipByte
  let content ← outcome content
  let ending ← outcome ending
  match content, ending with
  | .ok value, .ok _ => pure value
  | .error failure, _ => raise failure
  | _, .error failure => raise failure

/-- What is read with `nested`, the reader of values one level deeper, if there may be any. -/
def within {β : Type} (nested : Option β) (reader : β → Reader α) : Reader α :=
  match nested with
  | none => failAtNext .tooDeep
  | some nested => reader nested

/-- The items of a list from the `index`-th on. -/
def itemsFrom (item : Reader α) : Nat → Nat → Reader (List α)
  | 0, _ => pure []
  | fuel + 1, index => do
    if ← itemFollows (index = 0) then
      let first ← inside (.index index) item
      let rest ← itemsFrom item fuel (index + 1)
      pure (first :: rest)
    else pure []

def items (item : Reader α) : Reader (List α) := do itemsFrom item (← fuelLeft) 0

/-- The entries of an object after those that are `known`, the last first; `value` reads the
value of a key and may leave it out. -/
def entriesAfter (value : List (String × α) → String → Reader (Option α)) :
    Nat → List (String × α) → Bool → Reader (List (String × α))
  | 0, known, _ => pure known
  | fuel + 1, known, first => do
    match ← readKey first with
    | none => pure known
    | some key =>
      match ← value known key with
      | none => entriesAfter value fuel known false
      | some value' => entriesAfter value fuel ((key, value') :: known) false

/-- The entries of an object in their order. -/
def entries (value : List (String × α) → String → Reader (Option α)) :
    Reader (List (String × α)) := do
  return (← entriesAfter value (← fuelLeft) [] true).reverse

/-- The value that follows a key. -/
def valueOf (key : String) (reader : Reader α) : Reader α := do
  readColon
  inside (.key key) reader

/-! ## Values of a wrong shape -/

/-- What stands here instead of a value that was expected. Nothing of a list or an object is
passed. -/
def readFound : Reader Found := do
  match ← peekVisible with
  | none => failAtNext .endInValue
  | some byte =>
    match Char.ofNat byte.toNat with
    | 'n' => word ['u', 'l', 'l'] .null
    | 't' => word ['r', 'u', 'e'] (.flag true)
    | 'f' => word ['a', 'l', 's', 'e'] (.flag false)
    | '-' =>
      skipByte
      readNumber true
    | '\x22' =>
      skipByte
      return .text (← readText)
    | '[' => pure .list
    | '\x7b' => pure .table
    | _ => if isDigitByte byte then readNumber false else failAtNext .noValue
where
  word (rest : List Char) (found : Found) : Reader Found := do
    skipByte
    readWord rest
    pure found

/-- Fails because of what stands here. -/
def mismatched (expected : Shape) : Reader α := do
  let found ← readFound
  fail (.mismatch found expected)

/-! ## Type names -/

/-- Any value, as far as it may name types. -/
inductive AnyValue where
  | text (value : String)
  | list (items : List AnyValue)
  | other

/-- Any value, its parts being read by `nested`. -/
def anyValue (nested : Option (Reader AnyValue)) : Reader AnyValue := do
  match ← peekVisible with
  | none => failAtNext .endInValue
  | some byte =>
    if byte = byteOf '[' then
      within nested fun nested => return .list (← enclosed (items nested) endList)
    else if byte = byteOf '\x7b' then
      within nested fun nested => do
        let _ ← enclosed (entries fun _ key => valueOf key (some <$> nested)) endObject
        pure .other
    else
      match ← readFound with
      | .text value => pure (.text value)
      | _ => pure .other

/-- Any value, nested at most `depth` deep. -/
def readAny : Nat → Reader AnyValue
  | 0 => anyValue none
  | depth + 1 => anyValue (some (readAny depth))

def AnyValue.text? : AnyValue → Option String
  | .text value => some value
  | _ => none

def AnyValue.typeNames? : AnyValue → Option TypeNames
  | .text value => some (.one value)
  | .list items => (items.mapM AnyValue.text?).map .several
  | .other => none

/-! ## Values of a given shape -/

/-- A value that may be null. -/
def nullOr (reader : Reader α) : Reader (Option α) := do
  match ← peekVisible with
  | some byte =>
    if byte = byteOf 'n' then
      skipByte
      readWord ['u', 'l', 'l']
      pure none
    else some <$> reader
  | none => some <$> reader

/-- The value of a field, `none` if it is null and may be so. -/
def fieldValue (readShape : Shape → Reader Reading) (field : RecordField) :
    Reader (Option Reading) :=
  if field.nullable then nullOr (readShape field.shape) else some <$> readShape field.shape

/-- The values of the fields of a record from a list, the first of them being the `index`-th. -/
def fieldsInOrder (readShape : Shape → Reader Reading) (kind : Kind) :
    Nat → List RecordField → Reader (List (String × Reading))
  | _, [] => pure []
  | index, field :: rest => do
    if ← itemFollows (index = 0) then
      let value ← inside (.index index) (fieldValue readShape field)
      let more ← fieldsInOrder readShape kind (index + 1) rest
      pure ((value.map (field.key, ·)).toList ++ more)
    else if field.nullable then failUnsettled (.shortRecord index kind)
    else fieldsInOrder readShape kind (index + 1) rest

/-- The fields of a record from an object. A field may be null, but it may not occur twice. -/
def fieldsByKey (readShape : Shape → Reader Reading) (kind : Kind) :
    Reader (List (String × Option Reading)) :=
  entries fun known key =>
    match kind.field? key with
    | none => do
      valueOf key skipValue
      pure none
    | some field => do
      if (known.lookup key).isSome then failUnsettled (.repeatedField key)
      return some (← valueOf key (fieldValue readShape field))

/-- The entries that have a value. -/
def present (entries : List (String × Option Reading)) : List (String × Reading) :=
  entries.filterMap fun (key, value) => value.map (key, ·)

/-- A list of records. -/
def readList (kind : Kind) (readShape : Shape → Reader Reading) : Reader Reading := do
  return .list (← enclosed (items (readShape (.record kind))) endList)

/-- A table of records. -/
def readTable (kind : Kind) (readShape : Shape → Reader Reading) : Reader Reading := do
  let value := readShape (.record kind)
  let read ← enclosed (entries fun _ key => some <$> valueOf key value) endObject
  pure (.entries (putAll read))

/-- A record that is written as an object. -/
def readRecord (kind : Kind) (readShape : Shape → Reader Reading) : Reader Reading := do
  return .entries (present (← enclosed (fieldsByKey readShape kind) endObject))

/-- A record that is written as a list of its values. -/
def readListedRecord (kind : Kind) (readShape : Shape → Reader Reading) : Reader Reading := do
  return .entries (← enclosed (fieldsInOrder readShape kind 0 kind.fields) endList)

/-- Type names in any value. -/
def readTypeNames (any : Reader AnyValue) : Reader Reading := do
  match (← any).typeNames? with
  | some names => pure (.typeNames names)
  | none => failUnsettled .noTypeNames

/-- A value of the given shape, which begins with `first`; `any` reads any value, and `nested`
values of a given shape inside this one. -/
def valueOfShape (any : Reader AnyValue) (nested : Option (Shape → Reader Reading))
    (shape : Shape) (first : Char) : Reader Reading :=
  match shape, first with
  | .text, '\x22' => do
    skipByte
    return .text (← readText)
  | .flag, 't' => do
    skipByte
    readWord ['r', 'u', 'e']
    pure (.flag true)
  | .flag, 'f' => do
    skipByte
    readWord ['a', 'l', 's', 'e']
    pure (.flag false)
  | .typeNames, _ => readTypeNames any
  | .list kind, '[' => within nested (readList kind)
  | .table kind, '\x7b' => within nested (readTable kind)
  | .record kind, '\x7b' => within nested (readRecord kind)
  | .record kind, '[' => within nested (readListedRecord kind)
  | shape, _ => mismatched shape

/-- `valueOfShape` for the value that comes next. -/
def nextOfShape (any : Reader AnyValue) (nested : Option (Shape → Reader Reading))
    (shape : Shape) : Reader Reading := do
  match ← peekVisible with
  | none => failAtNext .endInValue
  | some byte => valueOfShape any nested shape (Char.ofNat byte.toNat)

/-- A value of the given shape, nested at most `depth` deep. -/
def readShape : Nat → Shape → Reader Reading
  | 0 => nextOfShape (readAny 0) none
  | depth + 1 => nextOfShape (readAny (depth + 1)) (some (readShape depth))

/-! ## Documents -/

/-- Why no document was read. -/
inductive DocumentFailure where
  | invalid (failure : Failure)
  /-- Something stands after the document. -/
  | trailing (failure : Failure)

def DocumentFailure.message (bytes : ByteArray) : DocumentFailure → String
  | invalid failure => "invalid OpenAPI JSON document: " ++ failure.message bytes
  | trailing failure =>
    "trailing characters after OpenAPI JSON document: " ++ failure.message bytes

/-- Passes blanks up to the end of the text. -/
def endText : Reader Unit := do
  if (← peekVisible).isSome then failAtNext .trailingCharacters

/-- The document in a text. -/
def readDocument (bytes : ByteArray) : Except DocumentFailure WrittenDocument :=
  let context : Context := ⟨bytes, []⟩
  match readShape depthLimit (.record .document) context 0 with
  | .error failure _ => .error (.invalid failure)
  | .ok reading position =>
    match endText context position with
    | .error failure _ => .error (.trailing failure)
    | .ok _ _ => .ok reading.document

end OpenApiClient.Json
