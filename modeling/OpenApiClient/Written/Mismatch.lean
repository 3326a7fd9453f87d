import OpenApiClient.Text.Quoted
import OpenApiClient.Written.Shape

/-!
# Mismatches

Where in a document something is wrong, and what is said if a value is not of the shape that
belongs there.
-/
namespace OpenApiClient

/-- A step into a value. -/
inductive Step where
  | key (name : String)
  | index (position : Nat)
  /-- A key that cannot be read. -/
  | unknown
deriving DecidableEq, Repr

/-- Steps into a document, the innermost first. -/
abbrev Place := List Step

namespace Place

def stepText : Step → String
  | .key name => name
  | .index position => "[" ++ toString position ++ "]"
  | .unknown => "?"

/-- Whether a step stands after a dot if it is not the first. -/
def dotted : Step → Bool
  | .index _ => false
  | _ => true

/-- Steps in the order in which they are taken; `first` if none stands before them. -/
def textOf (first : Bool) : List Step → String
  | [] => ""
  | step :: rest =>
    (if dotted step && !first then "." else "") ++ stepText step ++ textOf false rest

/-- A place as messages write it. -/
def text (place : Place) : String := textOf true place.reverse

/-- Whether nothing is known of a place. -/
def isUnknown (place : Place) : Bool := place.all (· = .unknown)

/-- What stands before a message about a place. -/
def lead (place : Place) : String := if place.isUnknown then "" else place.text ++ ": "

end Place

/-- What a document has in place of what belongs there. -/
inductive Found where
  | null
  | flag (value : Bool)
  /-- A whole number by its digits. -/
  | integer (digits : String)
  /-- A whole number that needs more than 64 bits. -/
  | wideInteger (digits : String) (negative : Bool)
  /-- Any other number as messages write it. -/
  | decimal (digits : String)
  | text (value : String)
  | list
  | table
deriving DecidableEq, Repr

/-- What messages call a value; `nullName` is the word for null. -/
def Found.name (nullName : String) : Found → String
  | null => nullName
  | flag value => "boolean \x60" ++ (if value then "true" else "false") ++ "\x60"
  | integer digits => "integer \x60" ++ digits ++ "\x60"
  | wideInteger digits negative =>
    "integer \x60" ++ digits ++ "\x60 as " ++ if negative then "i128" else "u128"
  | decimal digits => "floating point \x60" ++ digits ++ "\x60"
  | text value => "string " ++ String.ofList (Text.shown value.toList)
  | list => "sequence"
  | table => "map"

/-- The message about a value that is not what is expected. -/
def mismatchMessage (found expected : String) : String :=
  "invalid type: " ++ found ++ ", expected " ++ expected

def repeatedFieldMessage (key : String) : String := "duplicate field \x60" ++ key ++ "\x60"

/-- The message about a type that is neither a name nor a list of names. -/
def noTypeNamesMessage : String :=
  "data did not match any variant of untagged enum RawTypeSet"

/-- The message about a list that has too few values for the fields of a record. -/
def shortRecordMessage (count : Nat) (kind : Kind) : String :=
  let size := kind.fields.length
  "invalid length " ++ toString count ++ ", expected struct " ++ kind.name ++ " with " ++
    toString size ++ (if size = 1 then " element" else " elements")

end OpenApiClient
