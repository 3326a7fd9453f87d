/-!
# Request methods

A request method is a token, and its letter case counts.
-/
namespace OpenApiClient

/-- The characters of a token. -/
def isTokenChar (c : Char) : Bool :=
  c.isAlphanum || "!#$%&\x27*+-.^_\x60|~".toList.contains c

/-- A request method. -/
structure Method where
  token : String
deriving DecidableEq, Repr, Inhabited

namespace Method

/-- The method that a text names: any token that is not empty. -/
def ofToken? (token : String) : Option Method :=
  if token ≠ "" ∧ token.toList.all isTokenChar then some ⟨token⟩ else none

def get : Method := ⟨"GET"⟩
def put : Method := ⟨"PUT"⟩
def post : Method := ⟨"POST"⟩
def delete : Method := ⟨"DELETE"⟩
def options : Method := ⟨"OPTIONS"⟩
def head : Method := ⟨"HEAD"⟩
def patch : Method := ⟨"PATCH"⟩
def trace : Method := ⟨"TRACE"⟩

end Method

end OpenApiClient
