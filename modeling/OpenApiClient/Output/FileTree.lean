import OpenApiClient.Keyed

/-!
# File trees

A file system without links: the directories and files below its root, and the directory in
which a program runs. The program does three things with it: it reads a file, makes a directory
and writes a file. A path is a text with slashes. It leads on from the root if it starts with a
slash, and from the working directory if not. Empty parts and single dots lead nowhere, and two
dots lead to the directory above; above the root is the root itself.

* `FileTree.readFile?`, `FileTree.makeDirectory`, `FileTree.writeFile?`.
-/
namespace OpenApiClient.Output

/-- What stands at a place. -/
inductive Node where
  | directory
  | file (content : String)
deriving DecidableEq, Repr

/-- The names that lead to a place from the root. -/
abbrev FilePlace := List String

/-- What stands below the root, and the place of the working directory, which is taken to be
there. -/
structure FileTree where
  nodes : Keyed FilePlace Node := .empty
  working : FilePlace := []

/-- How many bytes a name may have. -/
def nameLimit : Nat := 255

/-- How many bytes a path may have. -/
def pathLimit : Nat := 4095

/-- The parts of a path between slashes. -/
def pathParts (path : String) : List String := (path.toList.splitOn '/').map String.ofList

/-- Whether a path leads on from the root. -/
def isAbsolute (path : String) : Bool := path.toList.head? = some '/'

/-- Whether a path can be used at all. -/
def isUsablePath (path : String) : Bool :=
  path.utf8ByteSize ≤ pathLimit && !path.toList.contains '\x00'

/-- Whether a part of a path leads nowhere. -/
def isIdlePart (part : String) : Bool := part = "" || part = "."

/-- Whether a path ends in parts that lead nowhere, a dot among them. A directory cannot be made
under a name with a dot behind it. -/
def endsInDot (parts : List String) : Bool := parts.all isIdlePart && parts.contains "."

namespace FileTree

/-- What stands at a place; the root is a directory. -/
def node? (tree : FileTree) (place : FilePlace) : Option Node :=
  if place = [] then some .directory else tree.nodes.get? place

def isDirectory (tree : FileTree) (place : FilePlace) : Bool :=
  tree.node? place = some .directory

/-- The tree with a node put at a place. -/
def set (tree : FileTree) (place : FilePlace) (node : Node) : FileTree :=
  { tree with nodes := tree.nodes.insert place node }

/-- The place from which a path leads on. -/
def start (tree : FileTree) (path : String) : FilePlace :=
  if isAbsolute path then [] else tree.working

/-- The directory that parts of a path lead to from a directory. -/
def directoryFrom (tree : FileTree) : FilePlace → List String → Option FilePlace
  | place, [] => some place
  | place, part :: rest =>
    if isIdlePart part then tree.directoryFrom place rest
    else if part = ".." then tree.directoryFrom place.dropLast rest
    else if tree.isDirectory (place ++ [part]) then tree.directoryFrom (place ++ [part]) rest
    else none

/-- The place of the file that a path names, whether or not it exists; its directory must. -/
def filePlace? (tree : FileTree) (path : String) : Option FilePlace :=
  let parts := pathParts path
  match parts.getLast? with
  | none => none
  | some name =>
    if !isUsablePath path || isIdlePart name || name = ".." || nameLimit < name.utf8ByteSize then
      none
    else (tree.directoryFrom (tree.start path) parts.dropLast).map (· ++ [name])

/-- The content of a file. -/
def readFile? (tree : FileTree) (path : String) : Option String := do
  let place ← tree.filePlace? path
  match tree.node? place with
  | some (.file content) => some content
  | _ => none

/-- Makes the directories that parts of a path lead through from a directory, as far as that can
be done, and says whether it could. -/
def makeFrom (tree : FileTree) : FilePlace → List String → FileTree × Bool
  | _, [] => (tree, true)
  | place, part :: rest =>
    if isIdlePart part then tree.makeFrom place rest
    else if part = ".." then tree.makeFrom place.dropLast rest
    else
      let next := place ++ [part]
      match tree.node? next with
      | some .directory => tree.makeFrom next rest
      | some (.file _) => (tree, false)
      | none =>
        if nameLimit < part.utf8ByteSize || endsInDot rest then (tree, false)
        else (tree.set next .directory).makeFrom next rest

/-- Makes a directory and those above it, and says whether it is there then. -/
def makeDirectory (tree : FileTree) (path : String) : FileTree × Bool :=
  if isUsablePath path then tree.makeFrom (tree.start path) (pathParts path) else (tree, false)

/-- The tree after a file has been written, if it can be. -/
def writeFile? (tree : FileTree) (path content : String) : Option FileTree := do
  let place ← tree.filePlace? path
  match tree.node? place with
  | some .directory => none
  | _ => some (tree.set place (.file content))

/-- The tree with a file below the working directory and the directories above it. -/
def withFile (tree : FileTree) (path content : String) : FileTree :=
  let parts := (pathParts path).filter (!isIdlePart ·)
  ((tree.makeFrom tree.working parts.dropLast).1).set (tree.working ++ parts) (.file content)

/-- The path of a node, with a slash behind that of a directory, and its content. -/
def listed (place : FilePlace) (node : Node) : String × String :=
  let path := "/".intercalate place
  match node with
  | .directory => (path ++ "/", "")
  | .file content => (path, content)

/-- All nodes below the working directory in the order of their paths from there. -/
def list (tree : FileTree) : List (String × String) :=
  let below := tree.nodes.entries.filter fun (place, _) =>
    tree.working.isPrefixOf place && place ≠ tree.working
  (below.map fun (place, node) => listed (place.drop tree.working.length) node).mergeSort
    fun a b => a.1 ≤ b.1

end FileTree

end OpenApiClient.Output
