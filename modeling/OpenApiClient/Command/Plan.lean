import OpenApiClient.Output.Writing

/-!
# Plans

What a run does, one step after the other: it prints lines, reads files and writes files. A plan
says what is to be done with the outcome of each step, so that it can be carried out on a real
file system and on a file tree.

* `Plan.runOn`: the outcome of a plan on a file tree.
-/
namespace OpenApiClient.Command

open Output

/-- A line that is printed, as output or as a message beside it. -/
inductive Line where
  | output (text : String)
  | message (text : String)
deriving DecidableEq, Repr

/-- What a run does. -/
inductive Plan where
  /-- The run ends, perhaps with an error. -/
  | finish (error : Option String)
  | print (line : Line) (next : Plan)
  /-- Reads a file; there may be none of that name. -/
  | read (path : String) (next : Option ByteArray → Plan)
  | write (directory : String) (files : List GeneratedFile)
      (next : Except WriteError (List String) → Plan)

namespace Plan

/-- Prints lines before all else. -/
def printAll (lines : List Line) (next : Plan) : Plan := lines.foldr print next

end Plan

/-- What a run leaves behind. -/
structure Outcome where
  error : Option String := none
  lines : List Line := []
  tree : FileTree
  /-- Whether it is unknown which files have been written. -/
  torn : Bool := false

namespace Outcome

/-- The text of all output lines. -/
def output (outcome : Outcome) : String :=
  String.join (outcome.lines.map fun
    | .output text => text ++ "\n"
    | .message _ => "")

/-- The text of all messages. -/
def messages (outcome : Outcome) : String :=
  String.join (outcome.lines.map fun
    | .output _ => ""
    | .message text => text ++ "\n")

/-- The exit code of a run. -/
def exitCode (outcome : Outcome) : Nat := if outcome.error.isSome then 1 else 0

end Outcome

/-- Whether some files may have been written although an error is reported. -/
def isTorn : Except WriteError (List String) → Bool
  | .error (.file _) => true
  | _ => false

/-- The outcome of a plan on a file tree. -/
def Plan.runOn (tree : FileTree) : Plan → Outcome
  | .finish error => { error := error, tree := tree }
  | .print line next =>
    let outcome := next.runOn tree
    { outcome with lines := line :: outcome.lines }
  | .read path next => (next ((tree.readFile? path).map (·.toUTF8))).runOn tree
  | .write directory files next =>
    let (after, written) := writeFiles directory files tree
    let outcome := (next written).runOn after
    { outcome with torn := outcome.torn || isTorn written }

end OpenApiClient.Command
