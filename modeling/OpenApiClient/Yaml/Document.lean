import OpenApiClient.Keyed
import OpenApiClient.Yaml.Event.Grammar

/-!
# YAML documents

The values of the first document of a stream, in the order of its text, with what its aliases
refer to. A problem does not undo what comes before it: it stands at the end of the values, where
a reader meets it if it gets so far.

An anchor has the number of anchors that were known before it. Its name may be used again; then
the number may be that of another anchor as well, and the later of the two is meant.
-/
namespace OpenApiClient.Yaml

/-- A part of a document. -/
inductive Part where
  | aliasTo (anchor : Nat)
  | scalar (value : ScalarValue)
  | sequenceStart (tag : Option String)
  | sequenceEnd
  | mappingStart (tag : Option String)
  | mappingEnd
  /-- The document holds nothing at all. -/
  | nothing
deriving DecidableEq, Repr

/-- Why the parts of a document end too early. -/
inductive Cut where
  | invalid (problem : Problem)
  | unknownAnchor (mark : Mark)
deriving DecidableEq, Repr

def Cut.message : Cut → String
  | invalid problem => problem.message
  | unknownAnchor mark => "unknown anchor" ++ mark.text

/-- The parts of a document. -/
structure Parts where
  parts : Array (Part × Mark) := #[]
  /-- Where the values begin that anchors stand before. -/
  targets : List (Nat × Nat) := []
  cut : Option Cut := none
  /-- Whether another document follows. -/
  more : Bool := false

/-- The parts of a document while they are collected, with the numbers of its anchors. -/
structure Collected where
  parts : Array (Part × Mark) := #[]
  anchors : List (String × Nat) := []
  targets : List (Nat × Nat) := []

namespace Collected

/-- Adds a part that an anchor may stand before. -/
def add (collected : Collected) (anchor : Option String) (part : Part) (mark : Mark) :
    Collected :=
  let parts := collected.parts.push (part, mark)
  match anchor with
  | none => { collected with parts := parts }
  | some name =>
    let number := collected.anchors.length
    { parts := parts
      anchors := put name number collected.anchors
      targets := put number collected.parts.size collected.targets }

def finish (collected : Collected) (cut : Option Cut) (more : Bool) : Parts :=
  ⟨collected.parts, collected.targets, cut, more⟩

end Collected

/-- Whether anything but the end of the stream comes next. -/
def documentFollows (text : Array Char) (state : Parsing) : Bool :=
  match nextEvent text state with
  | .ok event _ => event.kind ≠ .streamEnd
  | .error _ _ => true

/-- The parts of a document after those that are collected. `fuel` bounds the number of
events. -/
def collect (text : Array Char) : Nat → Parsing → Collected → Parts
  | 0, _, collected => collected.finish none false
  | fuel + 1, state, collected =>
    match nextEvent text state with
    | .error problem _ => collected.finish (some (.invalid problem)) false
    | .ok event state =>
      let next (anchor : Option String) (part : Part) : Parts :=
        collect text fuel state (collected.add anchor part event.start)
      match event.kind with
      | .streamStart => collect text fuel state collected
      | .documentStart => collect text fuel state collected
      | .documentEnd => collected.finish none (documentFollows text state)
      | .streamEnd => (collected.add none .nothing event.start).finish none false
      | .aliasTo name =>
        match collected.anchors.lookup name with
        | some number => next none (.aliasTo number)
        | none => collected.finish (some (.unknownAnchor event.start)) false
      | .scalar anchor value => next anchor (.scalar value)
      | .sequenceStart anchor tag => next anchor (.sequenceStart tag)
      | .sequenceEnd => next none .sequenceEnd
      | .mappingStart anchor tag => next anchor (.mappingStart tag)
      | .mappingEnd => next none .mappingEnd

/-- The parts of the first document in a text. -/
def partsOf (bytes : ByteArray) : Parts :=
  match characters bytes with
  | .error problem => { cut := some (.invalid problem) }
  | .ok text => collect text (text.size * 10 + 50) {} {}

end OpenApiClient.Yaml
