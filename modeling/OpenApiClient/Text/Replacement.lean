/-!
# Replacement

Replacing every occurrence of one text inside another, from left to right, where an occurrence
never overlaps the one before it. Replacements are not searched again.
-/
namespace OpenApiClient.Text

/-- `replaceAll` after `skip` further characters of an occurrence have been left out. -/
def replaceFrom (first : Char) (more new : List Char) : Nat → List Char → List Char
  | _, [] => []
  | skip + 1, _ :: rest => replaceFrom first more new skip rest
  | 0, c :: rest =>
    if c = first ∧ more.isPrefixOf rest then
      new ++ replaceFrom first more new more.length rest
    else c :: replaceFrom first more new 0 rest

/-- The text with every occurrence of `first :: more` replaced by `new`. -/
def replaceAll (first : Char) (more new text : List Char) : List Char :=
  replaceFrom first more new 0 text

/-- One line end for all: each pair of a carriage return and a line feed, and then each
carriage return that is left, becomes a line feed. -/
def unifyLineEnds (text : List Char) : List Char :=
  replaceAll '\r' [] ['\n'] (replaceAll '\r' ['\n'] ['\n'] text)

end OpenApiClient.Text
