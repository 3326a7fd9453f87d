import OpenApiClient.Output.FileTree
import OpenApiClient.Output.Layout
import OpenApiClient.Text.LowerCase

/-!
# Writing files

Generated files are written into one directory, which is made if it is missing. Nothing is
written if two names differ in letter case only, because they may be one name to the file system.

* `writeFiles`: the paths that were written, or why not.
-/
namespace OpenApiClient.Output

/-- Why files are not written. -/
inductive WriteError where
  | repeatedName (name : String)
  | directory (path : String)
  | file (path : String)
deriving DecidableEq, Repr

def WriteError.message : WriteError → String
  | repeatedName name =>
    "more than one generated file would be written to " ++ name ++
      " (names compare case-insensitively)"
  | directory path => "failed to create output directory " ++ path
  | file path => "failed to write " ++ path

/-- A name without regard to letter case. -/
def foldedName (name : String) : List Char := Text.lowerCase name.toList

/-- The first name that has occurred already, letter case aside; `seen` have. -/
def repeatedNameFrom (seen : List (List Char)) : List String → Option String
  | [] => none
  | name :: rest =>
    if foldedName name ∈ seen then some name
    else repeatedNameFrom (foldedName name :: seen) rest

/-- The first name that has occurred already, letter case aside. -/
def repeatedName? (names : List String) : Option String := repeatedNameFrom [] names

/-- The path of a name in a directory. -/
def joinPath (directory name : String) : String :=
  if name.toList.head? = some '/' ∨ directory = "" then name
  else if directory.toList.getLast? = some '/' then directory ++ name
  else directory ++ "/" ++ name

/-- Writes files one after the other and gives their paths, up to one that cannot be written. -/
def writeEach (directory : String) :
    List GeneratedFile → FileTree → FileTree × Except WriteError (List String)
  | [], tree => (tree, .ok [])
  | file :: rest, tree =>
    let path := joinPath directory file.name
    match tree.writeFile? path (unifiedLineEnds file.content) with
    | none => (tree, .error (.file path))
    | some tree =>
      let (tree, written) := writeEach directory rest tree
      (tree, written.map (path :: ·))

theorem writeEach_cons (directory : String) (file : GeneratedFile) (rest : List GeneratedFile)
    (tree : FileTree) :
    writeEach directory (file :: rest) tree =
      match tree.writeFile? (joinPath directory file.name) (unifiedLineEnds file.content) with
      | none => (tree, .error (.file (joinPath directory file.name)))
      | some next => ((writeEach directory rest next).1,
          (writeEach directory rest next).2.map (joinPath directory file.name :: ·)) := by
  rfl

/-- Writes files into a directory and gives their paths. -/
def writeFiles (directory : String) (files : List GeneratedFile) (tree : FileTree) :
    FileTree × Except WriteError (List String) :=
  match repeatedName? (files.map (·.name)) with
  | some name => (tree, .error (.repeatedName name))
  | none =>
    let (tree, made) := tree.makeDirectory directory
    if made then writeEach directory files tree else (tree, .error (.directory directory))

end OpenApiClient.Output
