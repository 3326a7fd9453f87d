import OpenApiClient.Client.Identity

/-!
# Modules

Paths of the form `/module/function` are grouped by their first segment. A path of any other form
is left out with a warning, and a function that a module already has is not added again.

* `segments`, `splitPath`: the parts of a path between its slashes.
* `Grouping.addPath`, `Grouping.insert`: the two ways to grow a grouping.
* `Grouping.finish`: its modules, and what is to be said about them.
-/
namespace OpenApiClient.Client

/-! ## Paths -/

/-- The parts of a path between slashes, empty ones left out. -/
def segmentChars : List Char → List (List Char)
  | [] => []
  | c :: rest =>
    if c = '/' then segmentChars rest
    else
      match rest with
      | [] => [[c]]
      | next :: _ =>
        if next = '/' then [c] :: segmentChars rest
        else Naming.attach c (segmentChars rest)

def segments (path : String) : List String := (segmentChars path.toList).map String.ofList

/-- The two segments of a path that has exactly two. -/
def splitPath (path : String) : Option (String × String) :=
  match segments path with
  | [first, second] => some (first, second)
  | _ => none

/-- The module and the function that a path names, where `spell` spells texts in ASCII. -/
def functionOfPath (spell : List Char → List Char) (path : String) : Option (String × String) :=
  match splitPath path with
  | none => none
  | some (module, segment) =>
    let name := Naming.functionNameBy spell segment
    if name = "" then none else some (module, name)

/-! ## Warnings -/

/-- What is to be said about a document. -/
inductive Warning where
  | skippedPath (path : String) (segments : Nat)
  | emptyFunctionName (path : String) (segment : String)
  | duplicateFunctionName (module : String) (name : String)
  | missingPaths
  | missingSchemas
deriving DecidableEq, Repr

namespace Warning

def message : Warning → String
  | skippedPath path segments =>
    "Path '" ++ path ++ "' has " ++ toString segments ++
      " segment(s); only /<module>/<function> paths are generated"
  | emptyFunctionName path segment =>
    "Path '" ++ path ++ "': segment '" ++ segment ++
      "' does not produce a valid function name"
  | duplicateFunctionName module name =>
    "Module '" ++ module ++ "' exports function '" ++ name ++
      "' more than once; the generated module will fail to load"
  | missingPaths => "Document has no paths; no modules generated"
  | missingSchemas => "Document has no components.schemas; models file not generated"

/-- Whether a path of the document is left out. -/
def isSkipped : Warning → Bool
  | skippedPath .. => true
  | emptyFunctionName .. => true
  | _ => false

/-- Whether a module cannot be loaded. -/
def breaksModule : Warning → Bool
  | duplicateFunctionName .. => true
  | _ => false

end Warning

/-! ## Repeated names -/

/-- The members of a list that occur in it again, each once and where it occurs for the second
time. `seen` have occurred already, `again` more than once. -/
def repeatedFrom {α : Type} [DecidableEq α] (seen again : List α) : List α → List α
  | [] => []
  | x :: rest =>
    if x ∈ again then repeatedFrom seen again rest
    else if x ∈ seen then x :: repeatedFrom seen (x :: again) rest
    else repeatedFrom (x :: seen) again rest

/-- The members of a list that occur in it again, each once and where it occurs for the second
time. -/
def repeated {α : Type} [DecidableEq α] (list : List α) : List α := repeatedFrom [] [] list

/-! ## Grouping -/

/-- The functions that belong in one file. -/
structure ClientModule where
  name : String
  functions : List ClientFunction
deriving DecidableEq

namespace ClientModule

/-- Whether a module has a function that is the same as the given one. -/
def has (module : ClientModule) (function : ClientFunction) : Bool :=
  module.functions.any fun known => known.identity == function.identity

def push (module : ClientModule) (function : ClientFunction) : ClientModule :=
  { module with functions := module.functions ++ [function] }

/-- One warning for each name that several functions of the module have. -/
def clashes (module : ClientModule) : List Warning :=
  (repeated (module.functions.map (·.name))).map (.duplicateFunctionName module.name)

end ClientModule

/-- Modules with a function added to the module of the given name, which is made if there is
none, and whether the function was new. -/
def insertInto (name : String) (function : ClientFunction) :
    List ClientModule → List ClientModule × Bool
  | [] => ([⟨name, [function]⟩], true)
  | module :: rest =>
    if module.name = name then
      if module.has function then (module :: rest, false)
      else (module.push function :: rest, true)
    else
      let (modules, inserted) := insertInto name function rest
      (module :: modules, inserted)

/-- Modules in the order in which they were first met, with what was left out. -/
structure Grouping where
  modules : List ClientModule := []
  /-- How many functions were not added because they were there already. -/
  duplicates : Nat := 0
  warnings : List Warning := []
deriving DecidableEq

namespace Grouping

/-- How many functions the modules have together. -/
def size (grouping : Grouping) : Nat :=
  grouping.modules.foldr (fun module rest => module.functions.length + rest) 0

/-- Adds a function to a module, unless the module has it. -/
def insert (grouping : Grouping) (module : String) (function : ClientFunction) :
    Grouping × Bool :=
  let (modules, inserted) := insertInto module function grouping.modules
  ({ grouping with
      modules := modules
      duplicates := if inserted then grouping.duplicates else grouping.duplicates + 1 },
    inserted)

def warn (grouping : Grouping) (warning : Warning) : Grouping :=
  { grouping with warnings := grouping.warnings ++ [warning] }

section

variable (spell : List Char → List Char) (parse : List Char → Option MediaType)

/-- Adds the functions for the operations of a path. -/
def addPath (grouping : Grouping) (path : String) (item : PathItem) : Grouping :=
  match splitPath path with
  | none => grouping.warn (.skippedPath path (segments path).length)
  | some (module, segment) =>
    let name := Naming.functionNameBy spell segment
    if name = "" then grouping.warn (.emptyFunctionName path segment)
    else
      item.entries.foldl
        (fun grouping (method, operation) =>
          (grouping.insert module (.ofOperation spell parse name method path operation)).1)
        grouping

/-- Adds all paths of a table in their order. -/
def addPaths (grouping : Grouping) (paths : Keyed String PathItem) : Grouping :=
  paths.entries.foldl (fun grouping (path, item) => grouping.addPath spell parse path item)
    grouping

end

/-- The grouping with a warning for every name that a module exports more than once. -/
def finish (grouping : Grouping) : Grouping :=
  { grouping with
      warnings := grouping.warnings ++ grouping.modules.flatMap (·.clashes) }

/-- The modules for the paths of a document. -/
def ofPaths (spell : List Char → List Char) (parse : List Char → Option MediaType)
    (paths : Keyed String PathItem) : Grouping :=
  (({} : Grouping).addPaths spell parse paths).finish

end Grouping

end OpenApiClient.Client
