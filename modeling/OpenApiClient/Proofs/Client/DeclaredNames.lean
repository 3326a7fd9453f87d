import OpenApiClient.Proofs.Client.InterfaceReading
import OpenApiClient.Proofs.Client.References

/-!
# Names of declared types

Every named schema has one declaration, and types that refer to it write its name. Both take the
name as the document has it. Documents may name schemas with dots and dashes, with a digit in
front, and with words of the language, which no declaration may have as its name.

Results:
* `isTypeName_iff`: which keys of schemas can name a type.
* `head_declaredNames_code`: a declaration declares its name first, whatever its types look like.
* `declaredNames_declarationsCode`: the names that the code of all declarations declares.
* `lineIn_typeSlots`: each type stands on a line of its declaration.
* `typeNames_iff`: exactly when the declarations have names that can name a type.
-/
namespace OpenApiClient

def isKeyChar (c : Char) : Bool := c.isAlphanum || c == '.' || c == '-' || c == '_'

/-- A key under which documents may name a schema: letters, digits, dots, dashes and
underscores. -/
def IsComponentKey (key : String) : Prop := key ≠ "" ∧ key.toList.all isKeyChar

instance (key : String) : Decidable (IsComponentKey key) := inferInstanceAs (Decidable (_ ∧ _))

namespace Client

open Naming

/-! ## Names of types -/

/-- Words that may not name a type. In contrast to variables, types may be named `arguments` and
`eval`. -/
def typeKeywords : List String :=
  reservedWords.filter fun word => word ≠ "arguments" && word ≠ "eval"

/-- A text that can name a type. -/
def IsTypeName (name : String) : Prop := isPlain name.toList ∧ name ∉ typeKeywords

instance (name : String) : Decidable (IsTypeName name) := inferInstanceAs (Decidable (_ ∧ _))

/-- A key without dots, dashes, and a digit in front, that is no word of the language. -/
structure SpeltLikeName (key : String) : Prop where
  dot : '.' ∉ key.toList
  dash : '-' ∉ key.toList
  digit : ∀ c ∈ key.toList.head?, ¬ c.isDigit
  keyword : key ∉ typeKeywords

/-- No identifier starts with a digit. -/
theorem not_isDigit_of_startsIdentifier {c : Char} (h : startsIdentifier c) : ¬ c.isDigit := by
  simp only [startsIdentifier, Bool.or_eq_true, beq_iff_eq] at h
  rcases h with (halpha | rfl) | rfl
  · simp only [Char.isAlpha, Char.isUpper, Char.isLower, Char.isDigit, Bool.or_eq_true,
      Bool.and_eq_true, decide_eq_true_eq, UInt32.le_iff_toNat_le, ge_iff_le] at halpha ⊢
    have : 'A'.val.toNat = 65 := rfl
    have : '9'.val.toNat = 57 := rfl
    have : 'a'.val.toNat = 97 := rfl
    omega
  · decide
  · decide

/-- Of the keys, those that can name a type are spelt like a name. -/
theorem isTypeName_iff {key : String} (h : IsComponentKey key) :
    IsTypeName key ↔ SpeltLikeName key := by
  obtain ⟨hne, hchars⟩ := h
  constructor
  · rintro ⟨hplain, hkeyword⟩
    have hcontinues := continues_of_isPlain hplain
    refine ⟨fun hdot => absurd (hcontinues _ hdot) (by decide),
      fun hdash => absurd (hcontinues _ hdash) (by decide), fun c hc => ?_, hkeyword⟩
    obtain ⟨rest, hkey⟩ := List.head?_eq_some_iff.mp hc
    rw [hkey, isPlain, Bool.and_eq_true] at hplain
    exact not_isDigit_of_startsIdentifier hplain.1
  · rintro ⟨hdot, hdash, hdigit, hkeyword⟩
    have hname : ∀ c ∈ key.toList, c.isAlphanum ∨ c = '_' := by
      intro c hc
      have hkey := List.all_eq_true.mp hchars c hc
      simp only [isKeyChar, Bool.or_eq_true, beq_iff_eq] at hkey
      rcases hkey with ((hletter | rfl) | rfl) | rfl
      · exact .inl hletter
      · exact absurd hc hdot
      · exact absurd hc hdash
      · exact .inr rfl
    refine ⟨?_, hkeyword⟩
    obtain ⟨first, rest, hkey⟩ : ∃ first rest, key.toList = first :: rest :=
      List.exists_cons_of_ne_nil fun e => hne (String.toList_eq_nil_iff.mp e)
    rw [hkey] at hname hdigit ⊢
    rw [List.forall_mem_cons] at hname
    rw [isPlain, Bool.and_eq_true, List.all_eq_true]
    constructor
    · have hfirst := hname.1
      have hfirst' := hdigit first rfl
      simp only [Char.isAlphanum, startsIdentifier] at hfirst hfirst' ⊢
      simp_all
    · intro c hc
      have hother := hname.2 c hc
      simp only [continuesIdentifier]
      simp_all

/-! ## The reader -/

/-- The name that the first line of a declaration declares: the third of its words. -/
def headName? (line : List Char) : Option String :=
  match line.splitOnP (· = ' ') with
  | first :: second :: name :: _ =>
    if first = "export".toList ∧ (second = "interface".toList ∨ second = "type".toList) then
      some (String.ofList name)
    else none
  | _ => none

/-- The names that some code declares, in their order. -/
def declaredNames (code : String) : List String :=
  (outsideComments false (code.toList.splitOnP (· = '\n'))).filterMap headName?

/-- What stands in front of the name that a declaration declares. -/
def DeclaredShape.opening : DeclaredShape → String
  | .interface _ => "export interface "
  | .typeAlias _ => "export type "

/-- The lines behind the first one. -/
def DeclaredShape.body : DeclaredShape → List String
  | .interface properties => properties.flatMap (·.lines) ++ ["\x7d"]
  | .typeAlias _ => []

/-- The beginning of the first line of a declaration, up to the blank behind the name. -/
def Declaration.head (declaration : Declaration) : String :=
  declaration.shape.opening ++ declaration.name ++ " "

theorem DeclaredShape.opening_toList (shape : DeclaredShape) :
    ∃ kind, (kind = "interface".toList ∨ kind = "type".toList) ∧
      ' ' ∉ kind ∧ '\n' ∉ shape.opening.toList ∧
      shape.opening.toList = ["export".toList, kind].flatMap (· ++ [' ']) := by
  cases shape with
  | interface properties =>
    have hfeed : '\n' ∉ "export interface ".toList := by decide
    have hwords : "export interface ".toList =
        ["export".toList, "interface".toList].flatMap (· ++ [' ']) := by decide
    rw [opening]
    exact ⟨"interface".toList, .inl rfl, by decide, hfeed, hwords⟩
  | typeAlias typeText =>
    have hfeed : '\n' ∉ "export type ".toList := by decide
    have hwords : "export type ".toList =
        ["export".toList, "type".toList].flatMap (· ++ [' ']) := by decide
    rw [opening]
    exact ⟨"type".toList, .inr rfl, by decide, hfeed, hwords⟩

theorem headName?_head {declaration : Declaration} (h : ' ' ∉ declaration.name.toList)
    (rest : List Char) :
    headName? (declaration.head.toList ++ rest) = some declaration.name := by
  obtain ⟨kind, hkind, hblank, -, hopening⟩ := declaration.shape.opening_toList
  have hwords : ∀ word ∈ ["export".toList, kind, declaration.name.toList], ' ' ∉ word := by
    simp only [List.forall_mem_cons]
    exact ⟨by decide, hblank, h, fun _ hword => nomatch hword⟩
  have hhead : declaration.head.toList =
      ["export".toList, kind, declaration.name.toList].flatMap (· ++ [' ']) := by
    rw [Declaration.head, String.toList_append, String.toList_append, hopening]
    simp
  rw [headName?, hhead, Text.splitOnP_flatMap_of_notMem hwords]
  simp only [List.cons_append]
  rw [if_pos ⟨trivial, hkind⟩, String.ofList_toList]

/-- The head of a declaration stands on one line if its name does. -/
theorem feed_notMem_head {declaration : Declaration} (h : '\n' ∉ declaration.name.toList) :
    '\n' ∉ declaration.head.toList := by
  obtain ⟨-, -, -, hopening, -⟩ := declaration.shape.opening_toList
  simp [Declaration.head, hopening, h]

theorem beginsComment_head (declaration : Declaration) (rest : List Char) :
    beginsComment (declaration.head.toList ++ rest) = false := by
  obtain ⟨kind, -, -, -, hopening⟩ := declaration.shape.opening_toList
  rw [Declaration.head, String.toList_append, String.toList_append, hopening]
  rfl

/-! ## One declaration -/

/-- Behind its comment a declaration has a line that begins with its head. -/
theorem codeLines_eq_head (declaration : Declaration) :
    ∃ rest, declaration.codeLines = docComment "" declaration.description ++
      (declaration.head ++ rest) :: declaration.shape.body := by
  have hbrace : " \x7b" = " " ++ "\x7b" := by decide
  have hequals : " = " = " " ++ "= " := by decide
  unfold Declaration.codeLines Declaration.head
  cases declaration.shape with
  | interface properties =>
    refine ⟨"\x7b", ?_⟩
    simp only [DeclaredShape.opening, DeclaredShape.body, hbrace, String.append_assoc,
      List.nil_append, List.cons_append]
  | typeAlias typeText =>
    refine ⟨"= " ++ (typeText ++ ";"), ?_⟩
    simp only [DeclaredShape.opening, DeclaredShape.body, hequals, String.append_assoc]

/-- A declaration declares its name first, whatever the types in it look like. -/
theorem head_declaredNames_code {declaration : Declaration} (hspace : ' ' ∉ declaration.name.toList)
    (hfeed : '\n' ∉ declaration.name.toList) :
    (declaredNames declaration.code).head? = some declaration.name := by
  obtain ⟨rest, hlines⟩ := codeLines_eq_head declaration
  have hcode : declaration.code.toList =
      ((docComment "" declaration.description).map (·.toList)).flatMap (· ++ ['\n']) ++
        (declaration.head.toList ++ (rest.toList ++
          '\n' :: (declaration.shape.body.map (·.toList)).flatMap (· ++ ['\n']))) := by
    rw [Declaration.code, codeOf_toList (by rw [hlines]; simp), hlines]
    simp
  have hcomment : ∀ line ∈ (docComment "" declaration.description).map (·.toList), '\n' ∉ line :=
    List.forall_mem_map.mpr (feed_notMem_docComment blank_empty _)
  obtain ⟨first, others, hsplit⟩ := Text.splitOnP_append_of_notMem (feed_notMem_head hfeed)
    (rest.toList ++ '\n' :: (declaration.shape.body.map (·.toList)).flatMap (· ++ ['\n']))
  rw [declaredNames, hcode, Text.splitOnP_flatMap_of_notMem hcomment, hsplit,
    outsideComments_docComment blank_empty, outsideComments, Bool.false_or, beginsComment_head,
    if_neg Bool.false_ne_true, List.filterMap_cons, headName?_head hspace]
  rfl

/-! ## The whole file -/

/-- An indented line declares no name. -/
theorem headName?_blank (rest : List Char) : headName? (' ' :: rest) = none := by
  rw [headName?, List.splitOnP_cons_eq_if_modifyHead, if_pos (decide_eq_true rfl)]
  split
  · rename_i hwords
    obtain ⟨rfl, -⟩ := List.cons.inj hwords
    exact if_neg fun h => absurd h.1 (by decide)
  · rfl

/-- Behind its first line a declaration declares nothing. -/
theorem names_body (shape : DeclaredShape) (rest : List (List Char)) :
    (outsideComments false (shape.body.map (·.toList) ++ rest)).filterMap headName? =
      (outsideComments false rest).filterMap headName? := by
  cases shape with
  | interface properties =>
    have hlines : (properties.map (·.line.toList)).filterMap headName? = [] := by
      refine List.filterMap_eq_nil_iff.mpr fun line hline => ?_
      obtain ⟨property, -, rfl⟩ := List.mem_map.mp hline
      rw [line_toList]
      exact headName?_blank _
    have hbrace : headName? "\x7d".toList = none := by decide
    rw [DeclaredShape.body, List.map_append, List.append_assoc, outsideComments_properties,
      List.filterMap_append, hlines, List.nil_append, List.map_singleton, List.singleton_append,
      outsideComments, if_neg (by decide), List.filterMap_cons, hbrace]
  | typeAlias typeText => rfl

theorem names_codeLines {declaration : Declaration} (hspace : ' ' ∉ declaration.name.toList)
    (rest : List (List Char)) :
    (outsideComments false (declaration.codeLines.map (·.toList) ++ rest)).filterMap headName? =
      declaration.name :: (outsideComments false rest).filterMap headName? := by
  obtain ⟨back, hlines⟩ := codeLines_eq_head declaration
  rw [hlines, List.map_append, List.append_assoc, outsideComments_docComment blank_empty,
    List.map_cons, List.cons_append, String.toList_append, outsideComments, Bool.false_or,
    beginsComment_head, if_neg Bool.false_ne_true, List.filterMap_cons, headName?_head hspace,
    names_body]

/-- The names in a file of declarations that stand on one line each are those of the
declarations. -/
theorem declaredNames_declarationsCode {declarations : List Declaration}
    (hspace : ∀ declaration ∈ declarations, ' ' ∉ declaration.name.toList)
    (hfeed : ∀ declaration ∈ declarations, ∀ line ∈ declaration.codeLines, '\n' ∉ line.toList) :
    declaredNames (declarationsCode declarations) = declarations.map (·.name) := by
  induction declarations with
  | nil => rfl
  | cons declaration more ih =>
    rw [List.forall_mem_cons] at hspace hfeed
    have ih := ih hspace.2 hfeed.2
    have hne : declaration.codeLines ≠ [] := by
      obtain ⟨rest, hlines⟩ := codeLines_eq_head declaration
      simp [hlines]
    have hcode := splitOnP_code hne hfeed.1
    cases more with
    | nil =>
      have hone : (declarationsCode [declaration]).toList = declaration.code.toList ++ [] := by
        simp [declarationsCode, joinedBy, Text.joined]
      rw [declaredNames, hone, hcode, names_codeLines hspace.1]
      rfl
    | cons next more =>
      have hjoined : (declarationsCode (declaration :: next :: more)).toList =
          declaration.code.toList ++ ('\n' :: (declarationsCode (next :: more)).toList) := by
        simp [declarationsCode, joinedBy, Text.joined]
      -- the blank line between two declarations declares nothing
      have hblank : ∀ lines, (outsideComments false ([] :: lines)).filterMap headName? =
          (outsideComments false lines).filterMap headName? := fun _ => rfl
      rw [declaredNames, hjoined, hcode, names_codeLines hspace.1,
        List.splitOnP_cons_eq_if_modifyHead, if_pos (decide_eq_true rfl), hblank, List.map_cons]
      exact congrArg _ ih

/-! ## Declarations for named schemas -/

/-- Where the declaration of a schema writes types: what stands in front of each on its line, and
the schema that the type is for. -/
def typeSlots (name : String) : Schema → List (String × Schema)
  | .object properties _ =>
    properties.map fun (property, schema) => (tab ++ propertyKey property ++ ": ", schema)
  | schema => [("export type " ++ name ++ " = ", schema)]

/-- No type of a declaration is broken into lines. -/
def TypesOnOneLine (schemas : Keyed String Schema) : Prop :=
  ∀ entry ∈ schemas.entries, ∀ slot ∈ typeSlots entry.1 entry.2,
    '\n' ∉ (slot.2.typeText "").toList

/-- The declarations for named schemas call each schema by one name. -/
structure NamedBy (nameOf : String → String) (schemas : Keyed String Schema) : Prop where
  /-- There is one declaration for each schema, in order. -/
  declared : (declarationsOf schemas.entries).map (fun declaration =>
    (declaredNames declaration.code).head?) = schemas.keys.map fun key => some (nameOf key)
  /-- Their code declares nothing else, unless types break their lines. -/
  listed : TypesOnOneLine schemas →
    declaredNames (declarationsCode (declarationsOf schemas.entries)) = schemas.keys.map nameOf
  distinct : (schemas.keys.map nameOf).Nodup
  /-- A type that refers to a schema is written with the name of its declaration. -/
  referred : ∀ entry ∈ schemas.entries, ∀ slot ∈ typeSlots (nameOf entry.1) entry.2,
    ∀ key ∈ schemas.keys, slot.2.referred? = some key →
      LineIn (slot.1 ++ marked (nameOf key ++ slot.2.brackets) slot.2.nullable ++ ";").toList
        (Declaration.ofSchema entry.1 entry.2).code.toList

theorem notMem_of_isComponentKey {key : String} (h : IsComponentKey key) {c : Char}
    (hc : ¬ isKeyChar c) : c ∉ key.toList :=
  fun hmem => hc (List.all_eq_true.mp h.2 c hmem)

/-- A schema that is no object is declared with its own type alone. -/
theorem object_or_typeAlias (name : String) (schema : Schema) :
    (∃ properties notes, schema = .object properties notes) ∨
      (Declaration.ofSchema name schema).codeLines = docComment "" schema.description ++
          ["export type " ++ name ++ " = " ++ schema.nullableTypeText "" ++ ";"] ∧
        typeSlots name schema = [("export type " ++ name ++ " = ", schema)] := by
  cases schema with
  | object properties notes => exact .inl ⟨properties, notes, rfl⟩
  | primitive typeName notes => exact .inr ⟨rfl, rfl⟩
  | array items notes => exact .inr ⟨rfl, rfl⟩
  | reference other notes => exact .inr ⟨rfl, rfl⟩

section

variable {name : String} {schema : Schema}

/-- Each type is written on a line of its own. -/
theorem lineIn_typeSlots {slot : String × Schema} (h : slot ∈ typeSlots name schema) :
    LineIn (slot.1 ++ slot.2.nullableTypeText "" ++ ";").toList
      (Declaration.ofSchema name schema).code.toList := by
  refine lineIn_codeOf ?_
  rcases object_or_typeAlias name schema with ⟨properties, notes, rfl⟩ | ⟨hlines, hslots⟩
  · obtain ⟨⟨property, part⟩, hpart, rfl⟩ := List.mem_map.mp h
    have hdeclared : DeclaredProperty.ofSchema property part ∈
        properties.map fun (name, schema) => .ofSchema name schema :=
      List.mem_map.mpr ⟨(property, part), hpart, rfl⟩
    have hline : (DeclaredProperty.ofSchema property part).line ∈
        (DeclaredProperty.ofSchema property part).lines :=
      List.mem_append_right _ (List.mem_singleton_self _)
    refine List.mem_append_right _ (List.mem_append_left _ (List.mem_append_right _ ?_))
    exact List.mem_flatMap.mpr ⟨_, hdeclared, hline⟩
  · rw [hslots] at h
    obtain rfl := List.mem_singleton.mp h
    rw [hlines]
    exact List.mem_append_right _ (List.mem_singleton_self _)

theorem feed_notMem_ofSchema (hname : '\n' ∉ name.toList)
    (htypes : ∀ slot ∈ typeSlots name schema, '\n' ∉ (slot.2.typeText "").toList) :
    ∀ line ∈ (Declaration.ofSchema name schema).codeLines, '\n' ∉ line.toList := by
  have hmarked : ∀ slot ∈ typeSlots name schema,
      '\n' ∉ (slot.2.nullableTypeText "").toList := fun slot hslot =>
    feed_notMem_marked (htypes slot hslot) slot.2.nullable
  rcases object_or_typeAlias name schema with ⟨properties, notes, rfl⟩ | ⟨hlines, hslots⟩
  · refine feed_notMem_codeLines rfl hname fun property hproperty => ?_
    obtain ⟨⟨property, part⟩, hpart, rfl⟩ := List.mem_map.mp hproperty
    have hslot : (tab ++ propertyKey property ++ ": ", part) ∈
        typeSlots name (.object properties notes) :=
      List.mem_map.mpr ⟨(property, part), hpart, rfl⟩
    have htype := hmarked _ hslot
    exact htype
  · rw [hslots, List.forall_mem_singleton] at hmarked
    rw [hlines]
    intro line hline
    rcases List.mem_append.mp hline with hline | hline
    · exact feed_notMem_docComment blank_empty _ line hline
    · obtain rfl := List.mem_singleton.mp hline
      simp [hname, hmarked]

end

theorem map_name_declarationsOf (schemas : Keyed String Schema) :
    (declarationsOf schemas.entries).map (·.name) = schemas.keys := by
  rw [declarationsOf, List.map_map]
  rfl

/-- The declarations take the keys of the schemas as names. -/
theorem namedBy_keys {schemas : Keyed String Schema}
    (h : ∀ key ∈ schemas.keys, IsComponentKey key) : NamedBy id schemas := by
  have hname : ∀ declaration ∈ declarationsOf schemas.entries,
      IsComponentKey declaration.name := by
    intro declaration hdeclaration
    refine h _ ?_
    rw [← map_name_declarationsOf]
    exact List.mem_map_of_mem hdeclaration
  have hspace : ∀ declaration ∈ declarationsOf schemas.entries, ' ' ∉ declaration.name.toList :=
    fun declaration hdeclaration =>
      notMem_of_isComponentKey (hname declaration hdeclaration) (by decide)
  have hfeed : ∀ declaration ∈ declarationsOf schemas.entries, '\n' ∉ declaration.name.toList :=
    fun declaration hdeclaration =>
      notMem_of_isComponentKey (hname declaration hdeclaration) (by decide)
  refine ⟨?_, fun htypes => ?_, ?_, ?_⟩
  · rw [← map_name_declarationsOf, List.map_map]
    exact List.map_congr_left fun declaration hdeclaration =>
      head_declaredNames_code (hspace declaration hdeclaration) (hfeed declaration hdeclaration)
  · rw [List.map_id, ← map_name_declarationsOf]
    refine declaredNames_declarationsCode hspace fun declaration hdeclaration => ?_
    have hone := hfeed declaration hdeclaration
    obtain ⟨entry, hentry, rfl⟩ := List.mem_map.mp hdeclaration
    exact feed_notMem_ofSchema hone (htypes entry hentry)
  · rw [List.map_id]
    exact schemas.nodup_keys
  · intro entry _ slot hslot key _ hreferred
    have hline := lineIn_typeSlots hslot
    rwa [Schema.nullableTypeText, Schema.typeText_of_referred? hreferred, String.empty_append]
      at hline

/-- They take no other names. -/
theorem NamedBy.nameOf_eq {schemas : Keyed String Schema} {nameOf : String → String}
    (hnamed : NamedBy nameOf schemas) (h : ∀ key ∈ schemas.keys, IsComponentKey key) :
    ∀ key ∈ schemas.keys, nameOf key = key := by
  have hkeys := hnamed.declared.symm.trans (namedBy_keys h).declared
  exact fun key hkey => Option.some.inj (List.map_inj_left.mp hkeys key hkey)

/-- The declarations call every schema by its key: there is one for each schema, in order, no two
have the same name, and types that refer to a schema have the name of its declaration. However the
schemas are called, all of the names can name a type exactly if every key is spelt like a name. -/
theorem typeNames_iff {schemas : Keyed String Schema}
    (h : ∀ key ∈ schemas.keys, IsComponentKey key) :
    NamedBy id schemas ∧
      ((∃ nameOf, NamedBy nameOf schemas ∧ ∀ key ∈ schemas.keys, IsTypeName (nameOf key)) ↔
        ∀ key ∈ schemas.keys, SpeltLikeName key) := by
  refine ⟨namedBy_keys h, ?_, ?_⟩
  · rintro ⟨nameOf, hnamed, hvalid⟩ key hkey
    have hname := hvalid key hkey
    rw [hnamed.nameOf_eq h key hkey] at hname
    exact (isTypeName_iff (h key hkey)).mp hname
  · exact fun hspelt => ⟨id, namedBy_keys h, fun key hkey =>
      (isTypeName_iff (h key hkey)).mpr (hspelt key hkey)⟩

/-- Schemas whose declarations refer to each other, one of them with a description and a type that
look like declarations. -/
def kin : Keyed String Schema :=
  .ofList [
    ("Pet_2", .object [("kin", .array (.array (.reference "Pets"))),
        ("odd", .primitive "x;\nexport type Dog = x")]
      { description := some "*/\nexport type Cat = x" }),
    ("Pets", .array (.reference "Pet_2") { nullable := true }),
    ("eval", .reference "Pets")]

theorem typeNames_iff_kin :
    (∀ key ∈ kin.keys, IsComponentKey key) ∧
      ∃ nameOf, NamedBy nameOf kin ∧ ∀ key ∈ kin.keys, IsTypeName (nameOf key) := by
  have hkeys : kin.keys = ["Pet_2", "Pets", "eval"] := by decide
  have hcomponent : ∀ key ∈ kin.keys, IsComponentKey key := by
    rw [hkeys]
    decide
  refine ⟨hcomponent, (typeNames_iff hcomponent).2.mpr fun key hkey => ?_⟩
  have htype : ∀ key ∈ kin.keys, IsTypeName key := by
    rw [hkeys]
    decide
  exact (isTypeName_iff (hcomponent key hkey)).mp (htype key hkey)

/-- Schemas under keys that documents may use, and that can name no type. -/
def oddlyNamed : Keyed String Schema :=
  .ofList [("my-pet", .array (.reference "my-pet")), ("api.Pet", .primitive "string"),
    ("2fa", .primitive "boolean"), ("class", .object [])]

/-- None of these declarations has a name that can name a type. -/
theorem typeNames_not_always_usable :
    (∀ key ∈ oddlyNamed.keys, IsComponentKey key) ∧ NamedBy id oddlyNamed ∧
      ∀ nameOf, NamedBy nameOf oddlyNamed → ∀ key ∈ oddlyNamed.keys, ¬ IsTypeName (nameOf key) := by
  have hkeys : oddlyNamed.keys = ["my-pet", "api.Pet", "2fa", "class"] := by decide
  have hcomponent : ∀ key ∈ oddlyNamed.keys, IsComponentKey key := by
    rw [hkeys]
    decide
  have hunusable : ∀ key ∈ oddlyNamed.keys, ¬ IsTypeName key := by
    rw [hkeys]
    decide
  refine ⟨hcomponent, namedBy_keys hcomponent, fun nameOf hnamed key hkey => ?_⟩
  rw [hnamed.nameOf_eq hcomponent key hkey]
  exact hunusable key hkey

end Client

end OpenApiClient
