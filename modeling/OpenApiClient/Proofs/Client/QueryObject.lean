import OpenApiClient.Keyed
import OpenApiClient.Proofs.Client.Address
import OpenApiClient.Proofs.Client.Bindings
import OpenApiClient.Proofs.Client.PropertyKeys

/-!
# The object of a query

A function sends the values of its query as the properties of an object, and the text of that
object is made from the names of its parameters. The language reads the text entry by entry and
defines the properties one after the other: an entry under a known name replaces a value, and an
entry under `__proto__` is about the prototype of the object and defines nothing.

Results:
* `readObject_queryObject`: the text of an object is read as the entries that it was written from,
  whatever names the parameters have.
* `entries_evaluated`: entries under different names become properties, but for `__proto__`.
* `sentProperties_ofOperation`: what the function for an operation sends in its query.
* `queryKept_iff`: no query parameter is lost exactly if none of them is called `__proto__`.
-/
namespace OpenApiClient.Client

/-! ## Reading an object -/

/-- Reads a key, a colon and a template literal. -/
def readEntry (text : List Char) : Option ((String × List Piece) × List Char) :=
  match readKey text with
  | some (name, ':' :: ' ' :: '\x60' :: rest) =>
    (readTemplate none rest).map fun (value, after) => ((String.ofList name, value), after)
  | _ => none

/-- Reads entries with commas between them, `count` at most, and the brace behind the last one. -/
def readEntries : Nat → List Char → Option (List (String × List Piece) × List Char)
  | 0, _ => none
  | count + 1, text =>
    match readEntry text with
    | some (entry, '\x7d' :: rest) => some ([entry], rest)
    | some (entry, ',' :: ' ' :: rest) =>
      (readEntries count rest).map fun (entries, after) => (entry :: entries, after)
    | _ => none

/-- Reads the literal of an object, and gives what follows it. -/
def readObject : List Char → Option (List (String × List Piece) × List Char)
  | '\x7b' :: '\x7d' :: rest => some ([], rest)
  | '\x7b' :: rest => readEntries rest.length rest
  | _ => none

/-- The entries of the object from which a line of code makes a query. -/
def queryEntries? (line : String) : Option (List (String × List Piece)) :=
  if "new URLSearchParams(".toList <:+ line.toList.takeWhile (· ≠ '\x7b') then
    match readObject (line.toList.dropWhile (· ≠ '\x7b')) with
    | some (entries, [')', ';']) => some entries
    | _ => none
  else none

/-! ## Evaluating an object -/

/-- Defines one property of an object. The name `__proto__` in front of a colon, in quotes or not,
sets the prototype and defines no property. -/
def define (object : Keyed String (List Piece)) (entry : String × List Piece) :
    Keyed String (List Piece) :=
  if entry.1 = "__proto__" then object else object.insert entry.1 entry.2

/-- The own properties of an object with the given entries. -/
def evaluated (entries : List (String × List Piece)) : Keyed String (List Piece) :=
  entries.foldl define .empty

/-- Entries under new names add properties to an object, but for `__proto__`. -/
theorem entries_foldl_define {entries : List (String × List Piece)}
    {object : Keyed String (List Piece)} (h : (object.keys ++ entries.map (·.1)).Nodup) :
    (entries.foldl define object).entries =
      object.entries ++ entries.filter (·.1 ≠ "__proto__") := by
  induction entries generalizing object with
  | nil => rw [List.foldl_nil, List.filter_nil, List.append_nil]
  | cons entry rest ih =>
    rw [List.foldl_cons]
    by_cases hproto : entry.1 = "__proto__"
    · have hskip : define object entry = object := if_pos hproto
      have hrest : (object.keys ++ rest.map (·.1)).Nodup :=
        h.sublist (List.sublist_cons_self _ _ |>.append_left _)
      rw [hskip, ih hrest, List.filter_cons_of_neg (by simpa using hproto)]
    · have hnew : entry.1 ∉ object.keys := fun hm =>
        (List.nodup_append.mp h).2.2 _ hm _ List.mem_cons_self rfl
      have hput : (define object entry).entries = object.entries ++ [entry] := by
        rw [define, if_neg hproto]
        exact put_of_notMem hnew entry.2
      have hkeys : (define object entry).keys ++ rest.map (·.1) =
          object.keys ++ (entry :: rest).map (·.1) := by
        rw [Keyed.keys, hput, List.map_append, List.append_assoc]
        rfl
      rw [ih (hkeys ▸ h), hput, List.filter_cons_of_pos (by simpa using hproto),
        List.append_assoc, List.singleton_append]

/-- Entries under different names become properties, but for `__proto__`. -/
theorem entries_evaluated {entries : List (String × List Piece)}
    (h : (entries.map (·.1)).Nodup) :
    (evaluated entries).entries = entries.filter (·.1 ≠ "__proto__") :=
  entries_foldl_define h

/-! ## The object of a function -/

/-- The property under which a query parameter is sent, with what it is bound to as the value. -/
def Argument.property (argument : Argument) : String × List Piece :=
  (argument.name, [.expression argument.ident.toList])

/-- The name of an argument can be read as an expression in a template. -/
theorem sound_ident {argument : Argument} (h : argument.Inert) :
    Sound [.expression argument.ident.toList] := by
  refine ⟨fun c hc hm => h c hc ?_, nofun, trivial⟩
  rw [Argument.encoding, String.toList_append, String.toList_append]
  exact List.mem_append_left _ (List.mem_append_right _ hm)

theorem queryEntry_toList (argument : Argument) :
    (queryEntry argument).toList = Naming.propertyKeyChars argument.name.toList ++
      ':' :: ' ' :: '\x60' :: (spelling [.expression argument.ident.toList] ++ ['\x60']) := by
  simp [queryEntry, Naming.propertyKey, templateLiteral, interpolated, Token.text]

/-- An entry is read, whatever name it is under and whatever follows it. -/
theorem readEntry_queryEntry {argument : Argument} (h : argument.Inert) (rest : List Char) :
    readEntry ((queryEntry argument).toList ++ rest) = some (argument.property, rest) := by
  rw [queryEntry_toList, List.append_assoc, readEntry, List.cons_append,
    readKey_colon]
  simp only [List.cons_append, List.append_assoc, List.nil_append]
  rw [readTemplate_spelling (sound_ident h), String.ofList_toList]
  rfl

/-- The first of several texts stands in front. -/
theorem joinedBy_cons (separator first : String) (more : List String) :
    (joinedBy separator (first :: more)).toList = first.toList ++
      if more = [] then [] else separator.toList ++ (joinedBy separator more).toList := by
  cases more with
  | nil => simp [joinedBy, Text.joined]
  | cons next more => simp [joinedBy, Text.joined]

/-- Entries are read up to the brace behind them. -/
theorem readEntries_joinedBy {arguments : List Argument} (hne : arguments ≠ [])
    (h : ∀ argument ∈ arguments, argument.Inert) {text rest : List Char}
    (htext : text = (joinedBy ", " (arguments.map queryEntry)).toList ++ '\x7d' :: rest)
    {count : Nat} (hcount : text.length ≤ count) :
    readEntries count text = some (arguments.map (·.property), rest) := by
  induction arguments generalizing text count with
  | nil => exact absurd rfl hne
  | cons argument more ih =>
    rw [List.forall_mem_cons] at h
    rw [List.map_cons, joinedBy_cons, List.append_assoc] at htext
    cases count with
    | zero =>
      have hlength := congrArg List.length htext
      simp only [List.length_append, List.length_cons] at hlength
      omega
    | succ count =>
      cases more with
      | nil =>
        rw [readEntries, htext, readEntry_queryEntry h.1]
        rfl
      | cons next more =>
        have hafter : text = (queryEntry argument).toList ++ ',' :: ' ' ::
            ((joinedBy ", " ((next :: more).map queryEntry)).toList ++ '\x7d' :: rest) := htext
        have hless : ((joinedBy ", " ((next :: more).map queryEntry)).toList ++
            '\x7d' :: rest).length ≤ count := by
          have hlength := congrArg List.length hafter
          rw [List.length_append, List.length_cons, List.length_cons] at hlength
          omega
        rw [readEntries, hafter, readEntry_queryEntry h.1]
        simp only
        rw [ih (List.cons_ne_nil next more) h.2 rfl hless]
        rfl

/-- The text of an object is read as the entries that it was written from. -/
theorem readObject_queryObject {function : ClientFunction}
    (h : ∀ argument ∈ function.queryArguments, argument.Inert) (rest : List Char) :
    readObject ((queryObject function).toList ++ rest) =
      some (function.queryArguments.map (·.property), rest) := by
  have hobject : (queryObject function).toList ++ rest =
      '\x7b' :: ((joinedBy ", " (function.queryArguments.map queryEntry)).toList ++
        '\x7d' :: rest) := by
    simp [queryObject]
  rw [hobject]
  generalize function.queryArguments = arguments at h
  cases arguments with
  | nil => rfl
  | cons argument more =>
    rw [readObject, readEntries_joinedBy (List.cons_ne_nil argument more) h rfl le_rfl]
    -- no key begins with a brace
    intro after hbrace
    obtain ⟨c, key, hkey, hc⟩ := head_propertyKeyChars argument.name.toList
    rw [List.map_cons, joinedBy_cons, queryEntry_toList, hkey] at hbrace
    obtain rfl := (List.cons.inj hbrace).1
    exact absurd hc (by decide)

/-- The first brace of a line divides it. -/
theorem queryEntries?_eq {line : String} {front rest : List Char} (hfront : '\x7b' ∉ front)
    (hline : line.toList = front ++ '\x7b' :: rest) :
    queryEntries? line =
      if "new URLSearchParams(".toList <:+ front then
        match readObject ('\x7b' :: rest) with
        | some (entries, [')', ';']) => some entries
        | _ => none
      else none := by
  have hbefore : ∀ c ∈ front, decide (c ≠ '\x7b') = true :=
    fun c hc => decide_eq_true fun e => hfront (e ▸ hc)
  have hbrace : ∀ c ∈ ('\x7b' :: rest).head?, ¬ decide (c ≠ '\x7b') = true := by
    simp
  obtain ⟨htake, hdrop⟩ := takeWhile_append_of_head hbefore hbrace
  rw [queryEntries?, hline, htake, hdrop]

/-- The line of a query has the entries for the query parameters. -/
theorem queryEntries?_queryLine {function : ClientFunction}
    (h : ∀ argument ∈ function.queryArguments, argument.Inert) :
    queryEntries? (tab ++ "const " ++ (Locals.ofFunction function).query ++
        " = new URLSearchParams(" ++ queryObject function ++ ");") =
      some (function.queryArguments.map (·.property)) := by
  obtain ⟨rest, hobject⟩ : ∃ rest, (queryObject function).toList = '\x7b' :: rest :=
    ⟨_, by rw [queryObject, String.toList_append, String.toList_append]; rfl⟩
  have hline : (tab ++ "const " ++ (Locals.ofFunction function).query ++
      " = new URLSearchParams(" ++ queryObject function ++ ");").toList =
      (tab ++ "const " ++ (Locals.ofFunction function).query ++
        " = new URLSearchParams(").toList ++ '\x7b' :: (rest ++ ");".toList) := by
    rw [String.toList_append, String.toList_append, hobject, List.append_assoc, List.cons_append]
  have hopening : "new URLSearchParams(".toList <:+
      (tab ++ "const " ++ (Locals.ofFunction function).query ++
        " = new URLSearchParams(").toList :=
    ⟨(tab ++ "const " ++ (Locals.ofFunction function).query ++ " = ").toList, by simp⟩
  have hread := readObject_queryObject h ");".toList
  rw [hobject, List.cons_append] at hread
  have hfront := special_notMem_declaration (by decide : '\x7b' ∈ Token.special)
    (query_chars function) (by decide : '\x7b' ∉ " = new URLSearchParams(".toList)
  rw [queryEntries?_eq hfront hline, if_pos hopening, hread]
  rfl

/-- The line of the address has no entries: its first brace belongs to the base. -/
theorem queryEntries?_urlLine (function : ClientFunction) :
    queryEntries? (tab ++ "const " ++ (Locals.ofFunction function).url ++ " = " ++
      urlLiteral function (Locals.ofFunction function) ++ ";") = none := by
  obtain ⟨rest, hliteral⟩ : ∃ rest, (urlLiteral function (Locals.ofFunction function)).toList =
      '\x60' :: '$' :: '\x7b' :: rest := by
    simp only [urlLiteral, templateLiteral, interpolated, String.toList_append, List.append_assoc]
    exact ⟨_, rfl⟩
  have hline : (tab ++ "const " ++ (Locals.ofFunction function).url ++ " = " ++
      urlLiteral function (Locals.ofFunction function) ++ ";").toList =
      (tab ++ "const " ++ (Locals.ofFunction function).url ++ " = \x60$").toList ++
        '\x7b' :: (rest ++ ";".toList) := by
    simp [hliteral]
  have hbrace := special_notMem_declaration (by decide : '\x7b' ∈ Token.special)
    (url_chars function) (by decide : '\x7b' ∉ " = \x60$".toList)
  rw [queryEntries?_eq hbrace hline, if_neg]
  rintro ⟨front, hfront⟩
  have hlast := congrArg List.getLast? hfront
  simp [List.getLast?_cons, List.getLast?_append] at hlast

/-! ## What is sent -/

/-- The own properties of the object from which a function makes its query. -/
def sentProperties (function : ClientFunction) : List (String × List Piece) :=
  match (urlStatement function (Locals.ofFunction function)).findSome? queryEntries? with
  | some entries => (evaluated entries).entries
  | none => []

/-- Nothing of the query is lost: the object has one own property for each query parameter and no
others. Their order is left open, as the language moves names that are numbers to the front. -/
def QueryKept (function : ClientFunction) : Prop :=
  (sentProperties function).Perm (function.queryArguments.map (·.property))

/-- The names of the query parameters of an operation. -/
def queryNames (operation : Operation) : List String :=
  (operation.parameters.filter (·.location = .query)).map (·.name)

/-- Values under different names are sent, except for one under `__proto__`. -/
theorem sentProperties_eq {function : ClientFunction}
    (h : ∀ argument ∈ function.queryArguments, argument.Inert)
    (hnames : (function.queryArguments.map (·.name)).Nodup) :
    sentProperties function =
      (function.queryArguments.filter (·.name ≠ "__proto__")).map (·.property) := by
  unfold sentProperties urlStatement
  by_cases hnone : function.queryArguments = []
  · rw [if_pos hnone, List.nil_append, List.findSome?_singleton, queryEntries?_urlLine, hnone]
    rfl
  · have hentries : ((function.queryArguments.map (·.property)).map (·.1)).Nodup := by
      rwa [List.map_map]
    rw [if_neg hnone, List.singleton_append, List.findSome?_cons, queryEntries?_queryLine h]
    simp only
    rw [entries_evaluated hentries, List.filter_map]
    rfl

section

variable (spell : List Char → List Char) (parse : List Char → Option MediaType) (name : String)
  (method : Method) (path : String)

/-- The query arguments of a function are those for the query parameters, in their order. -/
theorem map_name_queryArguments (operation : Operation) :
    let function := ClientFunction.ofOperation spell parse name method path operation
    function.queryArguments.map (·.name) = queryNames operation := by
  have harguments := Argument.map_ofParameters spell (Payload.ofOperation? parse operation).isSome
    operation.parameters (fun argument => (argument.location, argument.name))
    (fun parameter => (parameter.location, parameter.name)) fun _ _ => rfl
  have hsent : ∀ parameter : Parameter,
      (decide (parameter.location = .query) && Argument.isSent parameter) =
        decide (parameter.location = .query) := by
    intro parameter
    cases hlocation : parameter.location <;> simp [Argument.isSent, hlocation]
  have hquery := congrArg (fun pairs => (pairs.filter (·.1 = .query)).map Prod.snd) harguments
  simp only [List.filter_map, List.map_map, List.filter_filter, Function.comp_def, hsent] at hquery
  exact hquery

theorem sentProperties_ofOperation {operation : Operation} (h : (queryNames operation).Nodup) :
    let function := ClientFunction.ofOperation spell parse name method path operation
    sentProperties function =
      (function.queryArguments.filter (·.name ≠ "__proto__")).map (·.property) := by
  intro function
  refine sentProperties_eq (fun argument hm => ?_) ?_
  · exact Argument.inert_of_chars (ident_chars (List.mem_of_mem_filter hm))
  · rwa [map_name_queryArguments spell parse name method path operation]

end

theorem queryKept_iff_of_sent {function : ClientFunction}
    (h : sentProperties function =
      (function.queryArguments.filter (·.name ≠ "__proto__")).map (·.property)) :
    QueryKept function ↔ "__proto__" ∉ function.queryArguments.map (·.name) := by
  rw [QueryKept, h, List.mem_map]
  constructor
  · rintro hkept ⟨argument, hargument, hproto⟩
    have hlength := hkept.length_eq
    rw [List.length_map, List.length_map, List.length_filter_eq_length_iff] at hlength
    exact of_decide_eq_true (hlength argument hargument) hproto
  · intro hnone
    have hall : function.queryArguments.filter (·.name ≠ "__proto__") = function.queryArguments :=
      List.filter_eq_self.mpr fun argument hargument =>
        decide_eq_true fun hproto => hnone ⟨argument, hargument, hproto⟩
    rw [hall]

/-- The function for an operation whose query parameters have different names binds each of them to
a parameter of its own, and sends it under its name with this parameter as the value, unless the
name is `__proto__`. Nothing of the query is lost exactly if none has that name: quotes, commas,
braces and backticks in names do no harm. -/
theorem queryKept_iff (spell : List Char → List Char) (parse : List Char → Option MediaType)
    (name : String) (method : Method) (path : String) (operation : Operation)
    (h : (queryNames operation).Nodup) :
    let function := ClientFunction.ofOperation spell parse name method path operation
    function.queryArguments.map (·.name) = queryNames operation ∧
      (function.queryArguments.map (·.ident)).Nodup ∧
      function.queryArguments.map (·.ident) ⊆ function.signature ∧
      sentProperties function =
        (function.queryArguments.filter (·.name ≠ "__proto__")).map (·.property) ∧
      (QueryKept function ↔ "__proto__" ∉ queryNames operation) := by
  intro function
  have hnames : function.queryArguments.map (·.name) = queryNames operation :=
    map_name_queryArguments spell parse name method path operation
  have hidents : (function.queryArguments.map (·.ident)).Sublist function.signature :=
    (List.filter_sublist.map Argument.ident).trans (List.sublist_append_left _ _)
  have hdistinct : function.signature.Nodup :=
    nodup_signature (Argument.map_ident_ofParameters spell _ operation.parameters)
  have hsent := sentProperties_ofOperation spell parse name method path h
  exact ⟨hnames, hidents.nodup hdistinct, hidents.subset, hsent,
    hnames ▸ queryKept_iff_of_sent hsent⟩

/-- An operation with parameters of the given names in its query. -/
def queryOperation (names : List String) : Operation :=
  { parameters := names.map fun name => ⟨name, .query, .unknown, none⟩ }

theorem queryKept_iff_awkward :
    let names := ["id", "a, b", "\": \x60x\x60, \"", "\x7d", "$\x7bid\x7d\n", "", "10",
      "\"__proto__\""]
    let function := ClientFunction.ofOperation Text.latin MediaType.ofText? "list" .get
      "/pets/list" (queryOperation names)
    (queryNames (queryOperation names)).Nodup ∧
      (sentProperties function).map (·.1) = names ∧ QueryKept function := by
  intro names function
  have hnames : queryNames (queryOperation names) = names := by decide +kernel
  have hdistinct : (queryNames (queryOperation names)).Nodup := hnames ▸ by decide
  obtain ⟨hquery, -, -, hsent, hkept⟩ :=
    queryKept_iff Text.latin MediaType.ofText? "list" .get "/pets/list" _ hdistinct
  have hkeys : (sentProperties function).map (·.1) = names := by
    calc (sentProperties function).map (·.1)
        = (function.queryArguments.map (·.name)).filter (· ≠ "__proto__") := by
          rw [hsent, List.filter_map, List.map_map]
          rfl
      _ = names := by
          rw [hquery, hnames]
          decide
  exact ⟨hdistinct, hkeys, hkept.mpr (hnames ▸ by decide)⟩

/-- A parameter called `__proto__` is not sent, even if it is the only one. -/
theorem query_not_always_kept :
    (queryNames (queryOperation ["__proto__"])).Nodup ∧
      ¬ QueryKept (ClientFunction.ofOperation Text.latin MediaType.ofText? "list" .get "/pets/list"
        (queryOperation ["__proto__"])) := by
  have hdistinct : (queryNames (queryOperation ["__proto__"])).Nodup := by decide +kernel
  refine ⟨hdistinct, fun hkept => ?_⟩
  rw [QueryKept, sentProperties_ofOperation _ _ _ _ _ hdistinct] at hkept
  exact absurd hkept.length_eq (by decide +kernel)

end OpenApiClient.Client
