import OpenApiClient.Proofs.Client.Address
import OpenApiClient.Text.Latin

/-!
# What an address means

The code fills the placeholders of one parameter after the other, in text that is escaped
already. What it means is said of the path as it stands: each placeholder at once, for the first
parameter of its name. Names without an opening brace and without an opening parenthesis make
the two the same, since no placeholder then holds another one, and none begins in an expression.

Results:
* `filledPath`: a path with its placeholders filled in.
* `fillPlaceholder_fillTokens`: filling in one more parameter.
* `address_meaning`: the literal of an address means the path with its placeholders filled in.
-/
namespace OpenApiClient.Client

/-! ## Meaning -/

/-- The parameter of the placeholder that begins with a brace in front of `rest`: the first one
whose name stands there with a closing brace behind it. -/
def placeholderOf (arguments : List Argument) (rest : List Char) : Option Argument :=
  arguments.find? fun argument => (argument.name.toList ++ ['\x7d']).isPrefixOf rest

/-- The pieces of a path from some place on; `skip` characters belong to a placeholder that is
filled in already. -/
def filledFrom (arguments : List Argument) : Nat → List Char → List Piece
  | _, [] => []
  | skip + 1, _ :: rest => filledFrom arguments skip rest
  | 0, c :: rest =>
    match if c = '\x7b' then placeholderOf arguments rest else none with
    | some argument =>
      .expression argument.encoding ::
        filledFrom arguments (argument.name.toList.length + 1) rest
    | none => .literal c :: filledFrom arguments 0 rest

/-- The pieces of a path: each placeholder of a parameter is the expression for the parameter,
and every other character is literal. -/
def filledPath (arguments : List Argument) (path : List Char) : List Piece :=
  filledFrom arguments 0 path

/-! ## Tokens -/

/-- The tokens of a path from some place on, as `filledFrom` says what they mean. -/
def fillTokens (arguments : List Argument) : Nat → List Char → List Token
  | _, [] => []
  | skip + 1, _ :: rest => fillTokens arguments skip rest
  | 0, c :: rest =>
    match if c = '\x7b' then placeholderOf arguments rest else none with
    | some argument =>
      .expression argument.encoding ::
        fillTokens arguments (argument.name.toList.length + 1) rest
    | none => .ofChar c rest :: fillTokens arguments 0 rest

theorem piece_fillTokens (arguments : List Argument) (skip : Nat) (text : List Char) :
    (fillTokens arguments skip text).map (·.piece) = filledFrom arguments skip text := by
  induction text generalizing skip with
  | nil => cases skip <;> rfl
  | cons c rest ih =>
    cases skip with
    | zero =>
      rw [fillTokens, filledFrom]
      split <;> rw [List.map_cons, ih]
      · rfl
      · rw [piece_ofChar]
    | succ skip => exact ih skip

theorem fillTokens_nil (text : List Char) : fillTokens [] 0 text = tokenize text := by
  induction text with
  | nil => rfl
  | cons c rest ih => rw [fillTokens, placeholderOf, List.find?_nil, ite_self, ih, tokenize]

theorem fillTokens_skip (arguments : List Argument) (front rest : List Char) :
    fillTokens arguments front.length (front ++ rest) = fillTokens arguments 0 rest := by
  induction front with
  | nil => rfl
  | cons c front ih => exact ih

theorem head_fillTokens {arguments : List Argument} {text : List Char}
    (h : (fillTokens arguments 0 text).head? = some (.plain '\x7b')) :
    text.head? = some '\x7b' := by
  cases text with
  | nil => cases h
  | cons c rest =>
    rw [fillTokens] at h
    split at h
    · cases h
    · exact congrArg some (eq_of_ofChar (Option.some.inj h))

theorem sound_fillTokens {arguments : List Argument}
    (hall : ∀ argument ∈ arguments, argument.Inert) (skip : Nat) (text : List Char) :
    Sound (fillTokens arguments skip text) := by
  induction text generalizing skip with
  | nil => cases skip <;> trivial
  | cons c rest ih =>
    cases skip with
    | zero =>
      rw [fillTokens]
      split
      · rename_i argument hfound
        split at hfound
        · exact ⟨hall argument (List.mem_of_find?_eq_some hfound), nofun, ih _⟩
        · cases hfound
      · exact ⟨sound_ofChar c rest,
          fun hplain hhead => head_ne_of_ofChar hplain (head_fillTokens hhead), ih 0⟩
    | succ skip => exact ih skip

/-! ## Occurrences -/

/-- A placeholder without an opening brace in it holds no other one. -/
theorem fillTokens_append {front : List Char} (h : '\x7b' ∉ front) (arguments : List Argument)
    (rest : List Char) :
    fillTokens arguments 0 (front ++ '\x7d' :: rest) =
      tokenize front ++ .plain '\x7d' :: fillTokens arguments 0 rest := by
  induction front with
  | nil =>
    rw [List.nil_append, fillTokens, if_neg (by decide)]
    rfl
  | cons c front ih =>
    rw [List.mem_cons, not_or] at h
    have hchar : Token.ofChar c (front ++ '\x7d' :: rest) = Token.ofChar c front := by
      cases front <;> simp [Token.ofChar]
    rw [List.cons_append, fillTokens, if_neg (Ne.symm h.1), ih h.2, hchar]
    rfl

theorem fillTokens_of_occurs {name rest : List Char} (h : '\x7b' ∉ name)
    {arguments : List Argument} (hm : name ++ ['\x7d'] <+: rest) :
    fillTokens arguments 0 rest =
      tokenize name ++ .plain '\x7d' :: fillTokens arguments (name.length + 1) rest := by
  obtain ⟨after, rfl⟩ := hm
  have hskip := fillTokens_skip arguments (name ++ ['\x7d']) after
  rw [List.length_append, List.length_singleton] at hskip
  rw [hskip, List.append_assoc, List.singleton_append, fillTokens_append h]

/-- Pieces that are literal come from the characters of the path. -/
theorem prefix_of_filledFrom {arguments : List Argument} {chars text : List Char}
    {more : List Piece}
    (h : filledFrom arguments 0 text = chars.map .literal ++ more) : chars <+: text := by
  induction chars generalizing text with
  | nil => exact List.nil_prefix
  | cons c chars ih =>
    cases text with
    | nil => cases h
    | cons d rest =>
      rw [filledFrom] at h
      split at h
      · cases h
      · obtain ⟨hhead, htail⟩ := List.cons.inj h
        rw [Piece.literal.inj hhead]
        exact List.cons_prefix_cons.mpr ⟨rfl, ih htail⟩

theorem pieces_tokenize (text : List Char) :
    (tokenize text).map (·.piece) = text.map .literal := by
  induction text with
  | nil => rfl
  | cons c rest ih => rw [tokenize, List.map_cons, piece_ofChar, ih, List.map_cons]

/-- Among the tokens of a partly filled path the escaped name of a parameter occurs exactly where
the name stands in the path. -/
theorem occurs_iff {arguments : List Argument} (hall : ∀ argument ∈ arguments, argument.Inert)
    {name : List Char} (hname : '\x7b' ∉ name) {rest : List Char} :
    templateChars name ++ ['\x7d'] <+: spelling (fillTokens arguments 0 rest) ↔
      name ++ ['\x7d'] <+: rest := by
  constructor
  · rintro ⟨after, hafter⟩
    rw [List.append_assoc, List.singleton_append] at hafter
    obtain ⟨tokens, hsplit, -⟩ := split_of_spelling (sound_fillTokens hall 0 rest) hafter.symm
    have hpieces : filledFrom arguments 0 rest =
        (name ++ ['\x7d']).map .literal ++ tokens.map (·.piece) := by
      rw [← piece_fillTokens, hsplit, List.map_append, pieces_tokenize]
      simp [Token.piece]
    exact prefix_of_filledFrom hpieces
  · rintro ⟨after, rfl⟩
    rw [List.append_assoc, List.singleton_append, fillTokens_append hname, spelling_append,
      spelling_tokenize, spelling_cons]
    exact ⟨spelling (fillTokens arguments 0 after), by simp [Token.text]⟩

/-! ## One more parameter -/

theorem mem_templateChars {text : List Char} {c : Char} (h : c ∈ templateChars text) :
    c ∈ text ∨ c = '\\' := by
  induction text with
  | nil => cases h
  | cons d rest ih =>
    rw [templateChars_cons, List.mem_append] at h
    rcases h with h | h
    · unfold Token.ofChar at h
      split at h
      · rcases List.mem_cons.mp h with rfl | h
        · exact .inr rfl
        · exact .inl (List.mem_singleton.mp h ▸ List.mem_cons_self)
      · exact .inl (List.mem_singleton.mp h ▸ List.mem_cons_self)
    · exact (ih h).imp_left fun h => List.mem_cons_of_mem d h

/-- No name without an opening parenthesis begins in an expression. -/
theorem notPrefix_encoding {argument : Argument} (hinert : argument.Inert) {name : List Char}
    (hname : '(' ∉ name) (rest : List Char) :
    ¬ templateChars name ++ ['\x7d'] <+: argument.encoding ++ '\x7d' :: rest := by
  intro h
  rcases List.prefix_or_prefix_of_prefix h (List.prefix_append _ _) with h | h
  · exact hinert '\x7d' (by decide) (h.mem (by simp))
  · have hparen : '(' ∈ argument.encoding := by simp [Argument.encoding]
    have hmem := h.mem hparen
    rw [List.mem_append, List.mem_singleton] at hmem
    rcases hmem with hmem | hmem
    · exact (mem_templateChars hmem).elim hname (by decide)
    · cases hmem

theorem placeholderOf_append (arguments : List Argument) (argument : Argument)
    (rest : List Char) :
    placeholderOf (arguments ++ [argument]) rest =
      (placeholderOf arguments rest).or
        (if (argument.name.toList ++ ['\x7d']).isPrefixOf rest then some argument else none) := by
  rw [placeholderOf, List.find?_append, placeholderOf, List.find?_singleton]

/-- Filling the placeholders of one more parameter in the template for a path fills exactly those
that no parameter before it has. -/
theorem fillPlaceholder_fillTokens {arguments : List Argument} {argument : Argument}
    (hall : ∀ argument ∈ arguments, argument.Inert)
    (hname : '\x7b' ∉ argument.name.toList ∧ '(' ∉ argument.name.toList)
    (skip : Nat) (text : List Char) :
    fillPlaceholder (spelling (fillTokens arguments skip text)) argument =
      spelling (fillTokens (arguments ++ [argument]) skip text) := by
  induction text generalizing skip with
  | nil => cases skip <;> rfl
  | cons c rest ih =>
    cases skip with
    | succ skip => exact ih skip
    | zero =>
      rw [fillTokens, fillTokens]
      by_cases hc : c = '\x7b'
      · subst hc
        rw [if_pos rfl, if_pos rfl, placeholderOf_append]
        cases hfound : placeholderOf arguments rest with
        | some other =>
          have hinert := hall other (List.mem_of_find?_eq_some hfound)
          simp only [Option.some_or, spelling_cons]
          rw [fillPlaceholder_expression (hinert '\x7b' (by decide))
            (notPrefix_encoding hinert hname.2 _), ih]
        | none =>
          have hplain : (Token.ofChar '\x7b' rest).text = ['\x7b'] := by
            simp [Token.ofChar, Token.text]
          simp only [Option.none_or, spelling_cons, hplain, List.singleton_append]
          by_cases hm : argument.name.toList ++ ['\x7d'] <+: rest
          · obtain ⟨after, hsplit, hfill⟩ := fillPlaceholder_match (sound_fillTokens hall 0 rest)
              ((occurs_iff hall hname.1).mpr hm)
            rw [fillTokens_of_occurs hname.1 hm, List.append_cancel_left_eq,
              List.cons.injEq] at hsplit
            rw [if_pos (List.isPrefixOf_iff_prefix.mpr hm), hfill, ← hsplit.2, ih]
            rfl
          · rw [fillPlaceholder_noMatch (fun h => hm ((occurs_iff hall hname.1).mp h)), ih,
              if_neg (fun h => hm (List.isPrefixOf_iff_prefix.mp h))]
            simp only [spelling_cons, hplain, List.singleton_append]
      · have hbrace : '\x7b' ∉ (Token.ofChar c rest).text := by
          unfold Token.ofChar
          split <;> simp [Token.text, Ne.symm hc]
        rw [if_neg hc, if_neg hc]
        simp only [spelling_cons]
        rw [fillPlaceholder_append hbrace, ih]

/-- Filling the placeholders of parameters in turn fills each for the first parameter of its
name. -/
theorem foldl_fillPlaceholder {before arguments : List Argument}
    (hinert : ∀ argument ∈ before ++ arguments, argument.Inert)
    (hnames : ∀ argument ∈ arguments,
      '\x7b' ∉ argument.name.toList ∧ '(' ∉ argument.name.toList) (text : List Char) :
    arguments.foldl fillPlaceholder (spelling (fillTokens before 0 text)) =
      spelling (fillTokens (before ++ arguments) 0 text) := by
  induction arguments generalizing before with
  | nil => rw [List.append_nil]; rfl
  | cons argument rest ih =>
    rw [List.forall_mem_cons] at hnames
    have hbefore : ∀ argument ∈ before, argument.Inert :=
      fun argument hm => hinert argument (List.mem_append_left _ hm)
    rw [List.append_cons] at hinert ⊢
    rw [List.foldl_cons, fillPlaceholder_fillTokens hbefore hnames.1, ih hinert hnames.2]

/-! ## The address -/

/-- If no path parameter has an opening brace or an opening parenthesis in its name, the literal
of the address means the base and the path with its placeholders filled in, each for the first
path parameter of its name, with a slash in front if the path has none and with the query behind
it if there is one. It is so for every spelling of names. -/
theorem address_meaning (spell : List Char → List Char) (parse : List Char → Option MediaType)
    (name : String) (method : Method) (path : String) (operation : Operation)
    (hnames : ∀ argument ∈
      (ClientFunction.ofOperation spell parse name method path operation).pathArguments,
      '\x7b' ∉ argument.name.toList ∧ '(' ∉ argument.name.toList) :
    let function := ClientFunction.ofOperation spell parse name method path operation
    let locals := Locals.ofFunction function
    ∃ line, (urlStatement function locals).getLast? = some line ∧
      readLiteral line = some
        (.expression "BASE_URL".toList ::
          (filledPath function.pathArguments (rooted path.toList) ++
            if function.queryArguments = [] then []
            else [.literal '?', .expression locals.query.toList]), [';']) := by
  intro function locals
  have hinert : ∀ argument ∈ [] ++ function.pathArguments, argument.Inert := pathArguments_inert
  have htemplate : urlTemplate function =
      spelling (fillTokens function.pathArguments 0 (rooted path.toList)) := by
    rw [urlTemplate_eq, ← fillTokens_nil]
    exact foldl_fillPlaceholder hinert hnames _
  obtain ⟨line, hline, hread⟩ :=
    readLiteral_urlStatement (sound_fillTokens pathArguments_inert 0 _) htemplate
  refine ⟨line, hline, hread.trans ?_⟩
  rw [piece_fillTokens]
  unfold queryTokens filledPath
  split <;> rfl

/-- A name that repeats and a name with a backtick. -/
def awkwardNames : Operation :=
  { parameters := ["id", "a\x60b", "id"].map fun name =>
      { name := name, location := .path, schema := .unknown } }

theorem address_meaning_awkward :
    let function := ClientFunction.ofOperation Text.latin MediaType.ofText? "f" .get
      "is$\x7bid\x7d/\x7ba\x60b\x7d\x7bid" awkwardNames
    (∀ argument ∈ function.pathArguments,
      '\x7b' ∉ argument.name.toList ∧ '(' ∉ argument.name.toList) ∧
      ∃ line, (urlStatement function (Locals.ofFunction function)).getLast? = some line ∧
        readLiteral line = some
          (.expression "BASE_URL".toList :: ("/is$".toList.map .literal ++
            .expression "encodeURIComponent(id)".toList :: .literal '/' ::
            .expression "encodeURIComponent(aB)".toList :: "\x7bid".toList.map .literal),
            [';']) := by
  have hnames : ∀ argument ∈ (ClientFunction.ofOperation Text.latin MediaType.ofText? "f" .get
      "is$\x7bid\x7d/\x7ba\x60b\x7d\x7bid" awkwardNames).pathArguments,
      '\x7b' ∉ argument.name.toList ∧ '(' ∉ argument.name.toList := by decide +kernel
  obtain ⟨line, hline, hread⟩ := address_meaning Text.latin MediaType.ofText? "f" .get
    "is$\x7bid\x7d/\x7ba\x60b\x7d\x7bid" awkwardNames hnames
  refine ⟨hnames, line, hline, hread.trans ?_⟩
  decide +kernel

end OpenApiClient.Client
