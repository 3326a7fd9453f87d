import OpenApiClient.Proofs.Client.Placeholder

/-!
# The address of a call

The last line of the statement for the address holds a template literal: the base, the path with
its placeholders filled in, and the query if there is one.

Results:
* `readLiteral_urlStatement`: the literal is read as the tokens it was written from, whatever the
  path is.
* `address_closed`: no path and no name of a parameter gets out of the literal.
-/
namespace OpenApiClient.Client

/-! ## The literal -/

/-- The tokens of the query: a question mark and the constant that holds it. -/
def queryTokens (function : ClientFunction) (locals : Locals) : List Token :=
  if function.queryArguments = [] then []
  else [.plain '?', .expression locals.query.toList]

theorem urlLiteral_toList {function : ClientFunction} {locals : Locals} {tokens : List Token}
    (h : urlTemplate function = spelling tokens) :
    (urlLiteral function locals).toList =
      '\x60' :: (spelling (.expression "BASE_URL".toList ::
        (tokens ++ queryTokens function locals)) ++ ['\x60']) := by
  unfold urlLiteral queryTokens
  rw [h]
  split <;> simp [templateLiteral, interpolated, Token.text]

theorem query_chars (function : ClientFunction) :
    ∀ c ∈ (Locals.ofFunction function).query.toList, Naming.NameChar c :=
  freshName_chars_of_lower (by decide)

theorem url_chars (function : ClientFunction) :
    ∀ c ∈ (Locals.ofFunction function).url.toList, Naming.NameChar c :=
  freshName_chars_of_lower (by decide)

/-- Nothing in front of the value of a constant means anything in a template. -/
theorem special_notMem_declaration {c : Char} (hc : c ∈ Token.special) {name opening : String}
    (hname : ∀ d ∈ name.toList, Naming.NameChar d) (hopening : c ∉ opening.toList) :
    c ∉ (tab ++ "const " ++ name ++ opening).toList := by
  have hfront : ∀ c ∈ Token.special, c ∉ (tab ++ "const ").toList := by
    simp [Token.special, tab]
  have hnot : c ∉ name.toList := fun hm => special_not_nameChar c hc (hname c hm)
  rw [String.toList_append, String.toList_append, List.mem_append, List.mem_append, not_or, not_or]
  exact ⟨⟨hfront c hc, hnot⟩, hopening⟩

/-- The literal of an address is read as the tokens it was written from, and it ends with the
statement. -/
theorem readLiteral_urlStatement {function : ClientFunction} {tokens : List Token}
    (hsound : Sound tokens) (h : urlTemplate function = spelling tokens) :
    ∃ line, (urlStatement function (Locals.ofFunction function)).getLast? = some line ∧
      readLiteral line = some
        (.expression "BASE_URL".toList :: (tokens.map (·.piece) ++
          (queryTokens function (Locals.ofFunction function)).map (·.piece)), [';']) := by
  have hquery : Sound (queryTokens function (Locals.ofFunction function)) := by
    unfold queryTokens
    split
    · trivial
    · exact ⟨by simp [Token.Sound], nofun,
        fun c hc hm => special_not_nameChar c hc (query_chars function c hm), nofun, trivial⟩
  have hfirst : (queryTokens function (Locals.ofFunction function)).head? ≠
      some (.plain '\x7b') := by
    unfold queryTokens
    split <;> simp
  have hall : Sound (.expression "BASE_URL".toList ::
      (tokens ++ queryTokens function (Locals.ofFunction function))) :=
    ⟨by simp [Token.Sound, Token.special], fun hdollar => absurd hdollar (by simp),
      hsound.append hquery hfirst⟩
  have hfront : ∀ c ∈ (tab ++ "const " ++ (Locals.ofFunction function).url ++ " = ").toList,
      decide (c ≠ '\x60') = true := by
    intro c hc
    refine decide_eq_true ?_
    rintro rfl
    exact special_notMem_declaration (by decide) (url_chars function) (by decide) hc
  refine ⟨_, List.getLast?_concat, ?_⟩
  unfold readLiteral
  rw [String.toList_append, String.toList_append, urlLiteral_toList h, List.append_assoc,
    List.dropWhile_append_of_pos hfront, List.cons_append, List.dropWhile_cons, if_neg (by simp),
    List.tail_cons, List.append_assoc]
  refine (readTemplate_spelling hall [';']).trans ?_
  rw [List.map_cons, List.map_append]
  rfl

/-! ## Nothing gets out of the literal -/

theorem rooted_templateChars (text : List Char) :
    rooted (templateChars text) = templateChars (rooted text) := by
  cases text with
  | nil => rfl
  | cons c rest =>
    by_cases hc : c = '/'
    · subst hc; rw [rooted, templateChars_cons]; rfl
    · have hrooted : rooted (c :: rest) = '/' :: c :: rest := by
        unfold rooted
        split
        · rename_i e; exact absurd (List.cons.inj e).1 hc
        · rfl
      rw [hrooted, templateChars_cons '/', templateChars_cons]
      unfold Token.ofChar rooted
      split <;> split <;> rename_i e <;> simp_all [Token.text]

/-- The expression of a piece. -/
def Piece.expression? : Piece → Option (List Char)
  | .literal _ => none
  | .expression text => some text

theorem expressions_queryTokens (function : ClientFunction) (locals : Locals) :
    ((queryTokens function locals).map (·.piece)).filterMap (·.expression?) =
      if function.queryArguments = [] then [] else [locals.query.toList] := by
  unfold queryTokens
  split <;> rfl

theorem expression_notMem_tokenize {text chars : List Char} :
    .expression text ∉ tokenize chars := by
  induction chars with
  | nil => simp [tokenize]
  | cons c rest ih =>
    rw [tokenize, List.mem_cons, not_or]
    refine ⟨fun e => ?_, ih⟩
    have hpiece := piece_ofChar c rest
    rw [← e] at hpiece
    cases hpiece

theorem pathArguments_inert {spell : List Char → List Char}
    {parse : List Char → Option MediaType} {name : String} {method : Method} {path : String}
    {operation : Operation} :
    ∀ argument ∈
      (ClientFunction.ofOperation spell parse name method path operation).pathArguments,
      argument.Inert :=
  fun _ hm => Argument.inert_of_chars (ident_chars (List.mem_of_mem_filter hm))

theorem urlTemplate_eq (function : ClientFunction) :
    urlTemplate function = function.pathArguments.foldl fillPlaceholder
      (spelling (tokenize (rooted function.path.toList))) := by
  rw [urlTemplate, rooted_templateChars, spelling_tokenize]

/-- Whatever the path and the names of the parameters are, the literal of the address ends with
the statement. Its first expression is the base, then come only expressions for path parameters
of the function, and the last one is the query if and only if there is one. It is so for every
spelling of names. -/
theorem address_closed (spell : List Char → List Char) (parse : List Char → Option MediaType)
    (name : String) (method : Method) (path : String) (operation : Operation) :
    let function := ClientFunction.ofOperation spell parse name method path operation
    let locals := Locals.ofFunction function
    ∃ line pieces encodings,
      (urlStatement function locals).getLast? = some line ∧
      readLiteral line = some (pieces, [';']) ∧
      pieces.filterMap (·.expression?) = "BASE_URL".toList :: (encodings ++
        if function.queryArguments = [] then [] else [locals.query.toList]) ∧
      ∀ text ∈ encodings, ∃ argument ∈ function.pathArguments, text = argument.encoding := by
  intro function locals
  have hinert : ∀ argument ∈ function.pathArguments, argument.Inert := pathArguments_inert
  obtain ⟨filled, hsound, hfilled, hexpressions⟩ :=
    fillPlaceholders_spelling hinert (sound_tokenize (rooted function.path.toList))
  obtain ⟨line, hline, hread⟩ :=
    readLiteral_urlStatement hsound ((urlTemplate_eq function).trans hfilled)
  refine ⟨line, _, (filled.map (·.piece)).filterMap (·.expression?), hline, hread, ?_, ?_⟩
  · rw [← expressions_queryTokens, ← List.filterMap_append]
    rfl
  · intro text hm
    obtain ⟨piece, hpiece, htext⟩ := List.mem_filterMap.mp hm
    obtain ⟨token, htoken, rfl⟩ := List.mem_map.mp hpiece
    cases token with
    | plain c => cases htext
    | escaped c => cases htext
    | expression other =>
      obtain rfl : other = text := Option.some.inj htext
      exact (hexpressions other htoken).resolve_left expression_notMem_tokenize

end OpenApiClient.Client
