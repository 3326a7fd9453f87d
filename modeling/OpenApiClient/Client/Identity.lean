import OpenApiClient.Client.Function

/-!
# Identity of functions

Two functions of a module are the same if they agree on name, parameters, type of the answer,
method and path. The five are written one after the other as bytes, each text behind its length,
so that no two different lists of fields give the same bytes.
-/
namespace OpenApiClient.Client

/-- The lowest `count` bytes of a number, the lowest first. -/
def lowBytes : Nat → Nat → List UInt8
  | 0, _ => []
  | count + 1, n => UInt8.ofNat n :: lowBytes count (n / 256)

/-- The bytes of a text. -/
def textBytes (text : String) : List UInt8 := text.toUTF8.toList

/-- A text behind its length in eight bytes. -/
def fieldBytes (text : String) : List UInt8 :=
  lowBytes 8 (textBytes text).length ++ textBytes text

namespace ClientFunction

/-- The texts that make up the identity of a function. An answer without a type counts as one
with the empty type. -/
def identityFields (function : ClientFunction) : List String :=
  function.name :: (function.signature ++
    [function.reply.model.getD "", function.method.token, function.path])

/-- The identity of a function. -/
def identity (function : ClientFunction) : List UInt8 :=
  function.identityFields.flatMap fieldBytes

end ClientFunction

end OpenApiClient.Client
