/-!
# Humps

A word of ASCII letters and digits falls into humps where its letter case changes: after a
digit, before a capital that follows a small letter, and before the last capital of a run of
three or more when a small letter follows the run.
-/
namespace OpenApiClient.Naming

/-- Whether a hump starts at `current`, which follows `previous`, where `run` capitals in a row
end with `previous` and `next` comes after `current`. -/
def startsHump (previous : Char) (run : Nat) (current : Char) (next : Option Char) : Bool :=
  if previous.isDigit then current.isAlpha
  else if previous.isLower then current.isUpper
  else if previous.isUpper && current.isUpper then 2 ≤ run && next.any Char.isLower
  else false

/-- The length of the run of capitals that ends with `current`, if `run` capitals precede it. -/
def extendRun (run : Nat) (current : Char) : Nat := if current.isUpper then run + 1 else 0

/-- Puts a character in front of the first hump. -/
def attach (c : Char) : List (List Char) → List (List Char)
  | [] => [[c]]
  | hump :: more => (c :: hump) :: more

/-- The humps of what follows `previous`. The first one goes on with the hump of `previous`, and
is empty if a new hump starts at once. -/
def humpsAfter (previous : Char) (run : Nat) : List Char → List (List Char)
  | [] => [[]]
  | c :: rest =>
    let more := attach c (humpsAfter c (extendRun run c) rest)
    if startsHump previous run c rest.head? then [] :: more else more

/-- The humps of a word. -/
def humps : List Char → List (List Char)
  | [] => []
  | c :: rest => attach c (humpsAfter c (extendRun 0 c) rest)

end OpenApiClient.Naming
