import OpenApiClient.Json.Read
import OpenApiClient.Yaml.Read

/-!
# Sources

The two formats in which a document may be written, and how the name of a file tells which of
them it is in.
-/
namespace OpenApiClient

/-- A format of documents. -/
inductive Format where
  | json
  | yaml
deriving DecidableEq, Repr

/-- Why a text is no document. -/
inductive SourceError where
  | json (bytes : ByteArray) (failure : Json.DocumentFailure)
  | yaml (failure : Yaml.Failure)

def SourceError.message : SourceError → String
  | json bytes failure => failure.message bytes
  | yaml failure => failure.message

namespace Format

/-- The format for the extension of a file; letter case counts. -/
def ofExtension (extension : String) : Format :=
  if extension = "yaml" ∨ extension = "yml" then .yaml else .json

/-- The document in a text. -/
def read (format : Format) (bytes : ByteArray) : Except SourceError Document :=
  match format with
  | .json =>
    match Json.readDocument bytes with
    | .ok document => .ok document.resolve
    | .error failure => .error (.json bytes failure)
  | .yaml =>
    match Yaml.readDocument bytes with
    | .ok document => .ok document.resolve
    | .error failure => .error (.yaml failure)

end Format

/-! ## Names of files -/

/-- The last part of a path, slashes at its end left out; `none` if it names a directory by
dots. -/
def fileNameOf (path : String) : Option String :=
  let parts := path.toList.splitBy fun a b => a ≠ '/' && b ≠ '/'
  match (parts.filter fun part => part ≠ ['/'] && part ≠ ['.']).getLast? with
  | none => none
  | some name => if name = ['.', '.'] then none else some (String.ofList name)

/-- What follows the last dot of a file's name, if anything stands before the dot. -/
def extensionOf (path : String) : Option String := do
  let name ← fileNameOf path
  let reversed := name.toList.reverse
  let after := reversed.takeWhile (· ≠ '.')
  match reversed.drop after.length with
  | '.' :: _ :: _ => some (String.ofList after.reverse)
  | _ => none

/-- The format of a file by its name. -/
def Format.ofPath (path : String) : Format :=
  match extensionOf path with
  | some extension => .ofExtension extension
  | none => .json

end OpenApiClient
