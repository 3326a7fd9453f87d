import OpenApiClient.Proofs.Client.Banner
import OpenApiClient.Proofs.Client.Comment
import OpenApiClient.Proofs.Client.PropertyKeys

/-!
# Interfaces read back

An interface is written line by line: comments, a head, one line for each property, and a brace.
A reader that knows nothing but these lines finds the properties again. It passes comments from
the line that begins one to the line that ends it, so that no description is taken for code, and
reads the key of a property before anything else of the line, so that no name is.

Results:
* `outsideComments_docComment`: a comment is passed, whatever it says.
* `readProperty_line`: a property is read from its line, whatever its name and its type are.
* `readInterface_code`: the properties are read from the code of any declaration of an interface.
* `readInterface_ofSchema`: the names and the types of an object are read from its declaration.
-/
namespace OpenApiClient.Client

open Naming

/-! ## The reader -/

/-- A line without its indentation. -/
def unindented (line : List Char) : List Char := line.dropWhile (· = ' ')

def beginsComment (line : List Char) : Bool := "/**".toList.isPrefixOf (unindented line)

def endsComment (line : List Char) : Bool := decide (commentEnd <:+: line)

/-- The lines outside comments, where `inside` tells whether the first one is in a comment. -/
def outsideComments : Bool → List (List Char) → List (List Char)
  | _, [] => []
  | inside, line :: rest =>
    if inside || beginsComment line then outsideComments (!endsComment line) rest
    else line :: outsideComments false rest

/-- The name and the type of the property that a line declares: the key comes first, and the type
goes to the last semicolon. -/
def readProperty (line : List Char) : Option (String × String) :=
  match readKey (unindented line) with
  | some (name, ':' :: ' ' :: rest) =>
    if rest.getLast? = some ';' then some (String.ofList name, String.ofList rest.dropLast)
    else none
  | _ => none

/-- The properties that the lines up to a closing brace declare. -/
def readProperties : List (List Char) → Option (List (String × String))
  | [] => none
  | line :: rest =>
    if line = ['\x7d'] then some []
    else (readProperty line).bind fun property => (readProperties rest).map (property :: ·)

/-- The properties of the interface in a piece of code, in their order. -/
def readInterface (code : String) : Option (List (String × String)) :=
  match outsideComments false (code.toList.splitOnP (· = '\n')) with
  | head :: rest => if "export interface ".toList <+: head then readProperties rest else none
  | [] => none

/-! ## Comments -/

/-- Behind an indentation a line is what stands behind it, if that is not blank. -/
theorem unindented_append {indent line : List Char} (hindent : ∀ c ∈ indent, c = ' ')
    (hline : ∀ c ∈ line.head?, c ≠ ' ') : unindented (indent ++ line) = line :=
  (takeWhile_append_of_head (fun c hc => decide_eq_true (hindent c hc))
    fun c hc h => hline c hc (of_decide_eq_true h)).2

theorem endsComment_of_open {line : List Char} (h : Open line) : endsComment line = false := by
  refine decide_eq_false fun hend => ?_
  have hpair : Open commentEnd := List.IsChain.infix h hend
  exact (List.isChain_cons_cons.mp hpair).1 ⟨rfl, rfl⟩

theorem endsComment_append (front : List Char) : endsComment (front ++ commentEnd) = true :=
  decide_eq_true (List.suffix_append front commentEnd).isInfix

/-- Inside a comment every line is passed, up to the one that ends it. -/
theorem outsideComments_inside {lines : List (List Char)} {last : List Char}
    (h : ∀ line ∈ lines, endsComment line = false) (hlast : endsComment last = true)
    (rest : List (List Char)) :
    outsideComments true (lines ++ last :: rest) = outsideComments false rest := by
  induction lines with
  | nil => rw [List.nil_append, outsideComments, Bool.true_or, if_pos rfl, hlast, Bool.not_true]
  | cons line more ih =>
    rw [List.forall_mem_cons] at h
    rw [List.cons_append, outsideComments, Bool.true_or, if_pos rfl, h.1, Bool.not_false, ih h.2]

theorem beginsComment_append {indent : List Char} (h : ∀ c ∈ indent, c = ' ') (rest : List Char) :
    beginsComment (indent ++ ("/**".toList ++ rest)) = true := by
  rw [beginsComment, unindented_append h fun c hc => by obtain rfl := Option.some.inj hc; decide]
  exact List.isPrefixOf_iff_prefix.mpr (List.prefix_append _ rest)

/-- A comment is passed, whatever it says. -/
theorem outsideComments_docComment {indent : String} (h : ∀ c ∈ indent.toList, c = ' ')
    (description : Option String) (rest : List (List Char)) :
    outsideComments false ((docComment indent description).map (·.toList) ++ rest) =
      outsideComments false rest := by
  have hlines := commentLines_docComment h description
  generalize docComment indent description = lines at hlines
  cases hlines with
  | nothing => rfl
  | @single line hline =>
    have htext : (indent ++ "/** " ++ line ++ " */").toList =
        indent.toList ++ ("/**".toList ++ (' ' :: line.toList ++ " ".toList ++ commentEnd)) := by
      simp [commentEnd]
    have hend := endsComment_append
      (indent.toList ++ ("/**".toList ++ (' ' :: line.toList ++ " ".toList)))
    rw [List.map_singleton, List.singleton_append, outsideComments, htext,
      beginsComment_append h, Bool.or_true, if_pos rfl]
    rw [List.append_assoc, List.append_assoc] at hend
    rw [hend, Bool.not_true]
  | @block body hbody =>
    have hbegin : (indent ++ "/**").toList = indent.toList ++ ("/**".toList ++ []) := by simp
    have hlast : endsComment (indent ++ " */").toList = true := by
      have hend := endsComment_append (indent.toList ++ [' '])
      rw [List.append_assoc] at hend
      rw [String.toList_append]
      exact hend
    have hopen : endsComment (indent ++ "/**").toList = false := by
      obtain ⟨hindent, hstar⟩ := inner_of_blank h
      rw [String.toList_append]
      exact endsComment_of_open (hindent.1.append (by simp [Open]) (.inl hstar))
    have hinside : ∀ line ∈ body.map (·.toList), endsComment line = false := by
      intro line hline
      obtain ⟨text, htext, rfl⟩ := List.mem_map.mp hline
      exact endsComment_of_open (hbody text htext).1
    rw [List.map_cons, List.map_append, List.map_singleton, List.cons_append, outsideComments,
      hopen, hbegin, beginsComment_append h, Bool.or_true, if_pos rfl, Bool.not_false,
      List.append_assoc, List.singleton_append, outsideComments_inside hinside hlast]

/-- Every line of a comment is one line. -/
theorem feed_notMem_docComment {indent : String} (h : ∀ c ∈ indent.toList, c = ' ')
    (description : Option String) :
    ∀ line ∈ docComment indent description, '\n' ∉ line.toList := by
  have hlines := commentLines_docComment h description
  have hindent : '\n' ∉ indent.toList := (inner_of_blank h).1.2
  generalize docComment indent description = lines at hlines
  cases hlines with
  | nothing => exact fun line hline => nomatch hline
  | single hline =>
    rw [List.forall_mem_singleton]
    simp [hindent, hline.2]
  | block hbody =>
    intro line hline
    rw [List.mem_cons, List.mem_append, List.mem_singleton] at hline
    rcases hline with rfl | hline | rfl
    · simp [hindent]
    · exact (hbody line hline).2
    · simp [hindent]

/-! ## Lines of properties -/

/-- A key stands on one line. -/
theorem feed_notMem_propertyKeyChars (name : List Char) : '\n' ∉ propertyKeyChars name := by
  unfold propertyKeyChars
  split
  · exact fun h => absurd (continues_of_isPlain ‹_› _ h) (by decide)
  · exact fun h => absurd (Text.visible_of_mem_quoted h) (by decide)

theorem line_toList (property : DeclaredProperty) :
    property.line.toList = tab.toList ++
      (propertyKeyChars property.name.toList ++
        ':' :: ' ' :: (property.typeText.toList ++ [';'])) := by
  simp [DeclaredProperty.line, propertyKey]

/-- Behind the indentation the line of a property begins with its key. -/
theorem unindented_line (property : DeclaredProperty) :
    unindented property.line.toList =
      propertyKeyChars property.name.toList ++
        ':' :: ' ' :: (property.typeText.toList ++ [';']) := by
  obtain ⟨c, rest, hkey, hc⟩ := head_propertyKeyChars property.name.toList
  rw [line_toList, unindented_append blank_tab]
  rw [hkey]
  rintro d hd rfl
  obtain rfl := Option.some.inj hd
  exact absurd hc (by decide)

theorem beginsComment_line (property : DeclaredProperty) :
    beginsComment property.line.toList = false := by
  obtain ⟨c, rest, hkey, hc⟩ := head_propertyKeyChars property.name.toList
  rw [beginsComment, unindented_line, hkey]
  refine Bool.eq_false_iff.mpr fun hbegin => ?_
  obtain ⟨rfl, -⟩ := List.cons_prefix_cons.mp (List.isPrefixOf_iff_prefix.mp hbegin)
  exact absurd hc (by decide)

/-- A property is read from its line, whatever its name and its type are. -/
theorem readProperty_line (property : DeclaredProperty) :
    readProperty property.line.toList = some (property.name, property.typeText) := by
  rw [readProperty, unindented_line, readKey_colon]
  simp

theorem line_ne_brace (property : DeclaredProperty) : property.line.toList ≠ ['\x7d'] := by
  rw [line_toList]
  exact fun h => absurd (List.cons.inj h).1 (by decide)

theorem readProperties_lines (properties : List DeclaredProperty) (rest : List (List Char)) :
    readProperties (properties.map (·.line.toList) ++ ['\x7d'] :: rest) =
      some (properties.map fun property => (property.name, property.typeText)) := by
  induction properties with
  | nil => simp [readProperties]
  | cons property more ih =>
    rw [List.map_cons, List.cons_append, readProperties, if_neg (line_ne_brace property),
      readProperty_line, ih]
    rfl

/-- Of the lines of properties, those that declare them stand outside comments. -/
theorem outsideComments_properties (properties : List DeclaredProperty)
    (rest : List (List Char)) :
    outsideComments false ((properties.flatMap (·.lines)).map (·.toList) ++ rest) =
      properties.map (·.line.toList) ++ outsideComments false rest := by
  induction properties with
  | nil => rfl
  | cons property more ih =>
    rw [List.flatMap_cons, DeclaredProperty.lines, List.append_assoc, List.map_append,
      List.append_assoc, outsideComments_docComment blank_tab, List.singleton_append,
      List.map_cons, List.cons_append, outsideComments, Bool.false_or, beginsComment_line,
      if_neg Bool.false_ne_true, ih]
    rfl

theorem feed_notMem_line {property : DeclaredProperty} (h : '\n' ∉ property.typeText.toList) :
    '\n' ∉ property.line.toList := by
  have hkey := feed_notMem_propertyKeyChars property.name.toList
  rw [line_toList]
  simp [tab, hkey, h]

/-! ## Interfaces -/

/-- Each line of an interface is one line if its name and the types of its properties are. -/
theorem feed_notMem_codeLines {declaration : Declaration} {properties : List DeclaredProperty}
    (hshape : declaration.shape = .interface properties) (hname : '\n' ∉ declaration.name.toList)
    (htypes : ∀ property ∈ properties, '\n' ∉ property.typeText.toList) :
    ∀ line ∈ declaration.codeLines, '\n' ∉ line.toList := by
  intro line hline
  rw [Declaration.codeLines, hshape] at hline
  simp only [List.mem_append, List.mem_singleton, List.mem_flatMap, DeclaredProperty.lines]
    at hline
  rcases hline with hline | (rfl | ⟨property, hproperty, hline | rfl⟩) | rfl
  · exact feed_notMem_docComment blank_empty _ line hline
  · simp [hname]
  · exact feed_notMem_docComment blank_tab _ line hline
  · exact feed_notMem_line (htypes property hproperty)
  · decide

/-- Outside comments an interface is its head, the lines of its properties, and its brace. -/
theorem outsideComments_codeLines {declaration : Declaration}
    {properties : List DeclaredProperty} (h : declaration.shape = .interface properties) :
    outsideComments false (declaration.codeLines.map (·.toList) ++ [[]]) =
      ("export interface ".toList ++ (declaration.name.toList ++ " \x7b".toList)) ::
        (properties.map (·.line.toList) ++ ['\x7d'] :: [[]]) := by
  have hhead : ("export interface " ++ declaration.name ++ " \x7b").toList =
      "export interface ".toList ++ (declaration.name.toList ++ " \x7b".toList) := by
    rw [String.toList_append, String.toList_append, List.append_assoc]
  rw [Declaration.codeLines, h, List.map_append, List.append_assoc,
    outsideComments_docComment blank_empty]
  simp only [List.map_append, List.map_cons, List.map_nil, List.append_assoc, List.cons_append,
    List.nil_append, hhead]
  rw [outsideComments, if_neg, outsideComments_properties]
  · rfl
  · exact Bool.false_ne_true

/-- The lines of a declaration are found again in its code. -/
theorem splitOnP_code {declaration : Declaration} (hne : declaration.codeLines ≠ [])
    (h : ∀ line ∈ declaration.codeLines, '\n' ∉ line.toList) (rest : List Char) :
    (declaration.code.toList ++ rest).splitOnP (· = '\n') =
      declaration.codeLines.map (·.toList) ++ rest.splitOnP (· = '\n') := by
  have hlines : ∀ line ∈ declaration.codeLines.map (·.toList), '\n' ∉ line :=
    List.forall_mem_map.mpr h
  rw [Declaration.code, codeOf_toList hne, Text.splitOnP_flatMap_of_notMem hlines]

/-- The properties are read from the code of any declaration of an interface. -/
theorem readInterface_code {declaration : Declaration} {properties : List DeclaredProperty}
    (hshape : declaration.shape = .interface properties) (hname : '\n' ∉ declaration.name.toList)
    (htypes : ∀ property ∈ properties, '\n' ∉ property.typeText.toList) :
    readInterface declaration.code =
      some (properties.map fun property => (property.name, property.typeText)) := by
  have hne : declaration.codeLines ≠ [] := by
    rw [Declaration.codeLines, hshape]
    simp
  have hlines := splitOnP_code hne (feed_notMem_codeLines hshape hname htypes) []
  rw [List.append_nil] at hlines
  rw [readInterface, hlines, List.splitOnP_nil, outsideComments_codeLines hshape]
  simp only
  rw [if_pos (List.prefix_append _ _), readProperties_lines]

/-- A mark of null brings no line feed. -/
theorem feed_notMem_marked {typeText : String} (h : '\n' ∉ typeText.toList) (nullable : Bool) :
    '\n' ∉ (marked typeText nullable).toList := by
  unfold marked
  split
  · rw [String.toList_append, List.mem_append, not_or]
    exact ⟨h, by decide⟩
  · exact h

/-- The names of the properties of an object, and their types with the mark of null, are read from
its declaration in their order: descriptions may hold anything that looks like code, and names any
character at all. -/
theorem readInterface_ofSchema (name : String) (properties : List (String × Schema))
    (notes : Notes) (hname : '\n' ∉ name.toList)
    (htypes : ∀ property ∈ properties, '\n' ∉ (property.2.typeText "").toList) :
    readInterface (Declaration.ofSchema name (.object properties notes)).code =
      some (properties.map fun (property, schema) => (property, schema.nullableTypeText "")) := by
  have hmarked : ∀ property ∈ properties.map (fun (name, schema) =>
      DeclaredProperty.ofSchema name schema), '\n' ∉ property.typeText.toList := by
    intro property hproperty
    obtain ⟨⟨key, schema⟩, hmem, rfl⟩ := List.mem_map.mp hproperty
    exact feed_notMem_marked (htypes _ hmem) schema.nullable
  have hshape : (Declaration.ofSchema name (.object properties notes)).shape =
      .interface (properties.map fun (name, schema) => .ofSchema name schema) := rfl
  rw [readInterface_code hshape hname hmarked, List.map_map]
  rfl

/-- An object whose names and descriptions look like the code around them. -/
def disguised : List (String × Schema) :=
  [("id", .primitive "integer" { description := some "*/\n\x7d\nid: string;" }),
    ("a: b;\n\x7d", .reference "Tag" { nullable := true, description := some "/** " }),
    ("/** \"", .array (.primitive "Map<a; b>") {})]

theorem readInterface_ofSchema_disguised :
    readInterface (Declaration.ofSchema "Pet \x7b"
        (.object disguised { description := some "\x7d\r\n  x" })).code =
      some [("id", "number"), ("a: b;\n\x7d", "Tag | null"), ("/** \"", "Map<a; b>[]")] :=
  readInterface_ofSchema "Pet \x7b" disguised { description := some "\x7d\r\n  x" } (by decide)
    (by decide +kernel)

end OpenApiClient.Client
