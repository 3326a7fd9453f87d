/-!
# Fresh names

A name that is taken grows by underscores until it is free. No more underscores are ever needed
than there are taken names, so the search below ends with a free name.
-/
namespace OpenApiClient.Client

/-- Appends an underscore while the name is taken, at most `fuel` times. -/
def freshFrom (taken : List String) : Nat → String → String
  | 0, name => name
  | fuel + 1, name => if name ∈ taken then freshFrom taken fuel (name.push '_') else name

/-- The base with the fewest underscores after it that make it free. -/
def freshName (taken : List String) (base : String) : String :=
  freshFrom taken taken.length base

/-- Fresh names for all bases in turn, each of them taken for those that follow. -/
def freshNames (taken : List String) : List String → List String
  | [] => []
  | base :: more =>
    let name := freshName taken base
    name :: freshNames (name :: taken) more

end OpenApiClient.Client
