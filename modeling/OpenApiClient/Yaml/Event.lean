import OpenApiClient.Yaml.Token

/-!
# Events

The parts of a YAML stream in the order of its text: values without parts, and the starts and
ends of everything that has parts.
-/
namespace OpenApiClient.Yaml

/-- A scalar with its tag. -/
structure ScalarValue where
  text : String
  style : ScalarStyle
  tag : Option String
deriving DecidableEq, Repr

inductive EventKind where
  | streamStart
  | streamEnd
  | documentStart
  | documentEnd
  | aliasTo (name : String)
  | scalar (anchor : Option String) (value : ScalarValue)
  | sequenceStart (anchor tag : Option String)
  | sequenceEnd
  | mappingStart (anchor tag : Option String)
  | mappingEnd
deriving DecidableEq, Repr

/-- An event with the mark where it begins. -/
structure Event where
  kind : EventKind
  start : Mark
deriving DecidableEq, Repr

end OpenApiClient.Yaml
