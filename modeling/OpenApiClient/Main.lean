import OpenApiClient.Command.Run
import OpenApiClient.Command.Usage
import OpenApiClient.Text.Latin
import Std.Time.Zoned

/-!
# Command line

Carries out the plan for the arguments on the real file system, with names in their Latin
spelling.
-/
namespace OpenApiClient.Command

open Output Terminal

/-- Whether an action succeeds. -/
def succeeds (action : IO Unit) : IO Bool := do
  try
    action
    pure true
  catch _ => pure false

/-- Writes files one after the other, up to one that cannot be written. -/
def performWrites (directory : String) : List GeneratedFile → IO (Except WriteError (List String))
  | [] => pure (.ok [])
  | file :: rest => do
    let path := joinPath directory file.name
    if ← succeeds (IO.FS.writeFile path (unifiedLineEnds file.content)) then
      return (← performWrites directory rest).map (path :: ·)
    else pure (.error (.file path))

def performWrite (directory : String) (files : List GeneratedFile) :
    IO (Except WriteError (List String)) := do
  match repeatedName? (files.map (·.name)) with
  | some name => pure (.error (.repeatedName name))
  | none =>
    if directory = "" || (← succeeds (IO.FS.createDirAll directory)) then
      performWrites directory files
    else pure (.error (.directory directory))

/-- The bytes of a file, if it can be read. -/
def readBytes? (path : String) : IO (Option ByteArray) := do
  try
    return some (← IO.FS.readBinFile path)
  catch _ => pure none

def printLine : Line → IO Unit
  | .output text => IO.println text
  | .message text => IO.eprintln text

/-- Carries out a plan and gives the exit code. -/
def Plan.perform : Plan → IO UInt32
  | .finish none => pure 0
  | .finish (some failure) => do
    IO.eprintln ("Error: " ++ failure)
    pure 1
  | .print line next => do
    printLine line
    next.perform
  | .read path next => do (next (← readBytes? path)).perform
  | .write directory files next => do (next (← performWrite directory files)).perform

/-- What is known of the terminal. -/
def readEnvironment : IO Environment := do
  return {
    colorIndices := ← IO.getEnv "COLORFGBG"
    program := ← IO.getEnv "TERM_PROGRAM"
    profile := ← IO.getEnv "ITERM_PROFILE"
    isShown := ← (← IO.getStdout).isTty }

/-- Two digits of a number. -/
def twoDigits (n : Nat) : String := if n < 10 then "0" ++ toString n else toString n

/-- The time of the day between brackets. -/
def timeText : IO String := do
  let now ← Std.Time.PlainDateTime.now
  let parts := [now.hour.val.toNat, now.minute.val.toNat, now.second.val.toNat]
  pure ("[" ++ ":".intercalate (parts.map twoDigits) ++ "]")

end OpenApiClient.Command

open OpenApiClient OpenApiClient.Command in
def main (arguments : List String) : IO UInt32 := do
  let plan := planOf Text.latin MediaType.ofText? arguments (← readEnvironment) (← timeText)
  match plan with
  | .ok plan => plan.perform
  | .error refusal => do
    for line in refusal.lines do
      if refusal.exitCode = 0 then IO.println line else IO.eprintln line
    pure refusal.exitCode.toUInt32
