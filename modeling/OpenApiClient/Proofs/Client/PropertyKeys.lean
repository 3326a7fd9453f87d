import Mathlib.Data.List.Nodup
import OpenApiClient.Client.Declaration
import OpenApiClient.Client.FunctionCode
import OpenApiClient.Proofs.Text.Quoted
import OpenApiClient.Text.Latin

/-!
# Keys of properties

A property stands under its own name where that is a plain identifier, and under a JSON string
everywhere else. The first character tells which of the two it is, so that the name can always be
read back and no two names have one key.

Results:
* `readKey_propertyKeyChars`: a key is read back, whatever follows that is not part of it.
* `propertyKey_injective`: different names have different keys.
* `propertyKey_decodable`: what keys look like and what they mean, and that the keys of an
  interface and of a query are different from each other.
-/
namespace OpenApiClient.Client

open Naming

/-! ## Reading a key -/

/-- Reads a key, a JSON string or the longest plain name, and gives what follows. -/
def readKey : List Char → Option (List Char × List Char)
  | '\x22' :: rest => Text.readQuoted none rest
  | text =>
    if isPlain (text.takeWhile continuesIdentifier) then
      some (text.takeWhile continuesIdentifier, text.dropWhile continuesIdentifier)
    else none

/-- The name of the property that a key stands for. -/
def nameOfKey? (key : String) : Option String :=
  match readKey key.toList with
  | some (name, []) => some (String.ofList name)
  | _ => none

/-- A plain name is made of characters that continue one. -/
theorem continues_of_isPlain {name : List Char} (h : isPlain name) :
    ∀ c ∈ name, continuesIdentifier c := by
  cases name with
  | nil => cases h
  | cons first rest =>
    rw [isPlain, Bool.and_eq_true, List.all_eq_true] at h
    rw [List.forall_mem_cons]
    refine ⟨?_, h.2⟩
    simp only [startsIdentifier, Bool.or_eq_true] at h
    simp only [continuesIdentifier, Char.isAlphanum, Bool.or_eq_true]
    rcases h.1 with (h | h) | h
    · exact .inl (.inl (.inl h))
    · exact .inl (.inr h)
    · exact .inr h

/-- A key begins with a quote or like a plain name. -/
theorem head_propertyKeyChars (name : List Char) :
    ∃ c rest, propertyKeyChars name = c :: rest ∧ (c = '\x22' ∨ startsIdentifier c) := by
  unfold propertyKeyChars
  split
  · rename_i hplain
    cases name with
    | nil => cases hplain
    | cons first rest =>
      rw [isPlain, Bool.and_eq_true] at hplain
      exact ⟨first, rest, rfl, .inr hplain.1⟩
  · exact ⟨_, _, rfl, .inl rfl⟩

/-- What is taken while a test holds is a front that passes it, if what follows fails it. -/
theorem takeWhile_append_of_head {test : Char → Bool} {front rest : List Char}
    (hfront : ∀ c ∈ front, test c) (hrest : ∀ c ∈ rest.head?, ¬ test c) :
    (front ++ rest).takeWhile test = front ∧ (front ++ rest).dropWhile test = rest := by
  rw [List.takeWhile_append_of_pos hfront, List.dropWhile_append_of_pos hfront]
  cases rest with
  | nil => exact ⟨List.append_nil _, rfl⟩
  | cons c rest =>
    have hc : ¬ test c := hrest c rfl
    rw [List.takeWhile_cons_of_neg hc, List.dropWhile_cons_of_neg hc, List.append_nil]
    exact ⟨rfl, rfl⟩

/-- A key is read back, whatever follows that is not part of it. -/
theorem readKey_propertyKeyChars (name : List Char) {rest : List Char}
    (h : ∀ c ∈ rest.head?, ¬ continuesIdentifier c) :
    readKey (propertyKeyChars name ++ rest) = some (name, rest) := by
  unfold propertyKeyChars
  split
  · rename_i hplain
    have hchars := continues_of_isPlain hplain
    obtain ⟨htake, hdrop⟩ := takeWhile_append_of_head hchars h
    rw [readKey, htake, hdrop, if_pos hplain]
    -- a plain name does not begin with a quote
    intro more hquote
    cases name with
    | nil => cases hplain
    | cons first name =>
      obtain ⟨rfl, -⟩ := List.cons.inj hquote
      exact absurd (hchars _ List.mem_cons_self) (by decide)
  · rw [Text.quoted, List.cons_append, List.append_assoc, List.singleton_append, readKey,
      Text.readQuoted_quoted]

/-- A key ends at a colon. -/
theorem readKey_colon (name rest : List Char) :
    readKey (propertyKeyChars name ++ ':' :: rest) = some (name, ':' :: rest) := by
  refine readKey_propertyKeyChars name fun c hc => ?_
  obtain rfl := Option.some.inj hc
  decide

theorem nameOfKey?_propertyKey (name : String) : nameOfKey? (propertyKey name) = some name := by
  have hread : readKey (propertyKeyChars name.toList ++ []) = some (name.toList, []) :=
    readKey_propertyKeyChars _ fun c hc => by cases hc
  rw [List.append_nil] at hread
  rw [nameOfKey?, propertyKey, String.toList_ofList, hread]
  exact congrArg some String.ofList_toList

/-- Different names have different keys. -/
theorem propertyKey_injective : Function.Injective propertyKey := by
  intro first second h
  have hfirst := nameOfKey?_propertyKey first
  rw [h, nameOfKey?_propertyKey] at hfirst
  exact (Option.some.inj hfirst).symm

theorem toList_propertyKey {name : String} (h : ¬ isPlain name.toList) :
    (propertyKey name).toList = Text.quoted name.toList := by
  rw [propertyKey, String.toList_ofList, propertyKeyChars, if_neg h]

/-- A key is its name exactly if that is plain. -/
theorem propertyKey_eq_self_iff (name : String) :
    propertyKey name = name ↔ isPlain name.toList := by
  constructor
  · intro hsame
    by_contra hplain
    have hlength := Text.length_lt_length_quoted name.toList
    rw [← toList_propertyKey hplain, hsame] at hlength
    exact Nat.lt_irrefl _ hlength
  · intro hplain
    rw [propertyKey, propertyKeyChars, if_pos hplain, String.ofList_toList]

/-! ## The keys of an interface and of a query -/

/-- The lines of an interface whose properties stand under `keys`. -/
def interfaceLines (declaration : Declaration) (properties : List DeclaredProperty)
    (keys : List String) : List String :=
  docComment "" declaration.description ++
    (["export interface " ++ declaration.name ++ " \x7b"] ++
      (properties.zip keys).flatMap (fun (property, key) =>
        docComment tab property.description ++ [tab ++ key ++ ": " ++ property.typeText ++ ";"]) ++
      ["\x7d"])

/-- The object that holds the query, with its values under `keys`. -/
def objectUnder (arguments : List Argument) (keys : List String) : String :=
  "\x7b" ++ joinedBy ", " ((arguments.zip keys).map fun (argument, key) =>
    key ++ ": " ++ templateLiteral (interpolated argument.ident)) ++ "\x7d"

theorem zip_map_self {α β : Type} (f : α → β) (items : List α) :
    items.zip (items.map f) = items.map fun item => (item, f item) := by
  rw [← List.zip_map', List.map_id']

theorem codeLines_eq_interfaceLines {declaration : Declaration}
    {properties : List DeclaredProperty} (h : declaration.shape = .interface properties) :
    declaration.codeLines =
      interfaceLines declaration properties (properties.map (propertyKey ·.name)) := by
  rw [Declaration.codeLines, h, interfaceLines, zip_map_self, List.flatMap_map]
  rfl

theorem queryObject_eq_objectUnder (function : ClientFunction) :
    queryObject function =
      objectUnder function.queryArguments (function.queryArguments.map (propertyKey ·.name)) := by
  rw [queryObject, objectUnder, zip_map_self, List.map_map]
  rfl

/-- Keys under different names are different, and each of them stands for its name. -/
theorem nodup_keys {α : Type} {name : α → String} {items : List α}
    (h : (items.map name).Nodup) :
    (items.map (propertyKey <| name ·)).Nodup ∧
      (items.map (propertyKey <| name ·)).map nameOfKey? = items.map (some <| name ·) := by
  rw [List.map_map]
  refine ⟨?_, List.map_congr_left fun item _ => nameOfKey?_propertyKey (name item)⟩
  have hkeys := List.Nodup.map propertyKey_injective h
  rwa [List.map_map] at hkeys

/-- The key of a property is its name exactly if that is a plain identifier. Otherwise it is a JSON
string without controls, and its text is the name. Different names therefore have different keys:
an interface, and the object that holds a query, have different keys wherever the names are
different, and each of the keys stands for its name. -/
theorem propertyKey_decodable :
    (∀ name, (propertyKey name = name ↔ isPlain name.toList) ∧
      (¬ isPlain name.toList →
        (∀ c ∈ (propertyKey name).toList, 0x20 ≤ c.toNat) ∧
          Text.unquoted? (propertyKey name).toList = some name.toList)) ∧
      Function.Injective propertyKey ∧
      (∀ (declaration : Declaration) (properties : List DeclaredProperty),
        declaration.shape = .interface properties → (properties.map (·.name)).Nodup →
          ∃ keys : List String, keys.Nodup ∧
            keys.map nameOfKey? = properties.map (some ·.name) ∧
            declaration.codeLines = interfaceLines declaration properties keys) ∧
      ∀ function : ClientFunction, (function.queryArguments.map (·.name)).Nodup →
        ∃ keys : List String, keys.Nodup ∧
          keys.map nameOfKey? = function.queryArguments.map (some ·.name) ∧
          queryObject function = objectUnder function.queryArguments keys := by
  refine ⟨fun name => ⟨propertyKey_eq_self_iff name, fun hplain => ?_⟩, propertyKey_injective,
    fun declaration properties hshape hnames => ?_, fun function hnames => ?_⟩
  · rw [toList_propertyKey hplain]
    exact ⟨fun c => Text.visible_of_mem_quoted, Text.unquoted?_quoted name.toList⟩
  · obtain ⟨hkeys, hread⟩ := nodup_keys hnames
    exact ⟨_, hkeys, hread, codeLines_eq_interfaceLines hshape⟩
  · obtain ⟨hkeys, hread⟩ := nodup_keys hnames
    exact ⟨_, hkeys, hread, queryObject_eq_objectUnder function⟩

/-- Three names that look alike in code: a plain one, the same one in quotes, and the string that
is written for that. -/
def lookalikes : List DeclaredProperty :=
  [⟨"id", "string", none⟩, ⟨"\"id\"", "string", none⟩, ⟨"\"\\\"id\\\"\"\n", "string", none⟩]

/-- A function that sends a value under each of these names. -/
def lookalikeFunction : ClientFunction :=
  .ofOperation Text.latin MediaType.ofText? "list" .get "/pets/list"
    { parameters := lookalikes.map fun property => ⟨property.name, .query, .unknown, none⟩ }

theorem propertyKey_decodable_lookalikes :
    lookalikes.map (propertyKey ·.name) =
        ["id", "\"\\\"id\\\"\"", "\"\\\"\\\\\\\"id\\\\\\\"\\\"\\n\""] ∧
      ¬ isPlain "\"id\"".toList ∧
      Text.unquoted? (propertyKey "\"id\"").toList = some "\"id\"".toList ∧
      (∃ keys : List String, keys.Nodup ∧ keys.map nameOfKey? = lookalikes.map (some ·.name) ∧
        (⟨"Pet", none, .interface lookalikes⟩ : Declaration).codeLines =
          interfaceLines ⟨"Pet", none, .interface lookalikes⟩ lookalikes keys) ∧
      ∃ keys : List String, keys.Nodup ∧
        keys.map nameOfKey? = lookalikeFunction.queryArguments.map (some ·.name) ∧
        queryObject lookalikeFunction = objectUnder lookalikeFunction.queryArguments keys := by
  obtain ⟨hname, -, hinterface, hquery⟩ := propertyKey_decodable
  have hplain : ¬ isPlain "\"id\"".toList := by decide
  exact ⟨by decide +kernel, hplain, ((hname "\"id\"").2 hplain).2,
    hinterface _ lookalikes rfl (by decide), hquery lookalikeFunction (by decide +kernel)⟩

end OpenApiClient.Client
