import Mathlib.Data.List.Basic
import OpenApiClient.Client.FunctionCode
import OpenApiClient.Proofs.Text.Replacement

/-!
# Template literals

How the language reads a template literal, and how its text is made of tokens: a character as it
is, a character behind a backslash, or an expression in braces. Tokens that keep to a few rules
are read as they are meant, and the escaped form of any text keeps to them.

Results:
* `readTemplate_spelling`: sound tokens are read one by one, up to the backtick that ends them.
* `spelling_tokenize`, `sound_tokenize`: an escaped text is the spelling of sound tokens.
* `split_of_spelling`: where an escaped text occurs among sound tokens, it covers whole tokens.
-/
namespace OpenApiClient.Client

/-! ## Reading -/

/-- A piece of a template as the language reads it. -/
inductive Piece where
  | literal (c : Char)
  | expression (text : List Char)
deriving DecidableEq, Repr

/-- Reads a template up to the backtick that ends it, and gives what follows. A backslash makes
the next character literal. A dollar sign and an opening brace begin an expression that goes to
the next closing brace; inside it, the text of the expression so far is kept. -/
def readTemplate : Option (List Char) → List Char → Option (List Piece × List Char)
  | _, [] => none
  | some text, '\x7d' :: rest =>
    (readTemplate none rest).map fun (pieces, after) => (.expression text :: pieces, after)
  | some text, c :: rest => readTemplate (some (text ++ [c])) rest
  | none, '\x60' :: rest => some ([], rest)
  | none, '\\' :: c :: rest =>
    (readTemplate none rest).map fun (pieces, after) => (.literal c :: pieces, after)
  | none, '\\' :: [] => none
  | none, '$' :: '\x7b' :: rest => readTemplate (some []) rest
  | none, c :: rest =>
    (readTemplate none rest).map fun (pieces, after) => (.literal c :: pieces, after)

/-- Reads the first template literal of a line of code, and gives what follows it. -/
def readLiteral (line : String) : Option (List Piece × List Char) :=
  readTemplate none (line.toList.dropWhile (· ≠ '\x60')).tail

/-! ## Tokens -/

/-- What the text of a template is made of. -/
inductive Token where
  | plain (c : Char)
  | escaped (c : Char)
  | expression (text : List Char)
deriving DecidableEq, Repr

namespace Token

/-- The text of a token. -/
def text : Token → List Char
  | plain c => [c]
  | escaped c => ['\\', c]
  | expression text => '$' :: '\x7b' :: (text ++ ['\x7d'])

/-- What a token means. -/
def piece : Token → Piece
  | plain c => .literal c
  | escaped c => .literal c
  | expression text => .expression text

/-- Characters that mean something in a template. -/
def special : List Char := ['\\', '\x60', '$', '\x7b', '\x7d']

/-- What can be said of a token by itself. -/
def Sound : Token → Prop
  | plain c => c ≠ '\\' ∧ c ≠ '\x60'
  | escaped c => c ≠ '\x7b'
  | expression text => ∀ c ∈ special, c ∉ text

end Token

/-- The text of tokens. -/
def spelling (tokens : List Token) : List Char := tokens.flatMap (·.text)

@[simp]
theorem spelling_nil : spelling [] = [] := rfl

@[simp]
theorem spelling_cons (token : Token) (tokens : List Token) :
    spelling (token :: tokens) = token.text ++ spelling tokens := rfl

@[simp]
theorem spelling_append (first second : List Token) :
    spelling (first ++ second) = spelling first ++ spelling second := List.flatMap_append

/-- Tokens that are read as they are meant: a plain dollar sign is not followed by a plain
opening brace. -/
def Sound : List Token → Prop
  | [] => True
  | token :: rest =>
    token.Sound ∧ (token = .plain '$' → rest.head? ≠ some (.plain '\x7b')) ∧ Sound rest

theorem Sound.append {first second : List Token} (hfirst : Sound first) (hsecond : Sound second)
    (h : second.head? ≠ some (.plain '\x7b')) : Sound (first ++ second) := by
  induction first with
  | nil => exact hsecond
  | cons token rest ih =>
    obtain ⟨htoken, hnext, hrest⟩ := hfirst
    refine ⟨htoken, fun e => ?_, ih hrest⟩
    cases rest with
    | nil => exact h
    | cons next rest => exact hnext e

theorem Sound.of_append {first second : List Token} (h : Sound (first ++ second)) :
    Sound second := by
  induction first with
  | nil => exact h
  | cons token rest ih => exact ih h.2.2

/-- An expression is read up to its closing brace. -/
theorem readTemplate_expression {text : List Char} (h : '\x7d' ∉ text) (before rest : List Char) :
    readTemplate (some before) (text ++ '\x7d' :: rest) =
      (readTemplate none rest).map fun (pieces, after) =>
        (.expression (before ++ text) :: pieces, after) := by
  induction text generalizing before with
  | nil => simp [readTemplate]
  | cons c text ih =>
    rw [List.mem_cons, not_or] at h
    rw [List.cons_append, readTemplate, ih h.2, List.append_assoc, List.singleton_append]
    exact fun e => h.1 e.symm

/-- Only a plain opening brace is spelt with one in front. -/
theorem head_of_spelling {tokens : List Token} {c : Char} (hc : c ≠ '\x7b') {rest : List Char}
    (h : (spelling tokens ++ c :: rest).head? = some '\x7b') :
    tokens.head? = some (.plain '\x7b') := by
  cases tokens with
  | nil => exact absurd (Option.some.inj h) hc
  | cons token tokens =>
    cases token with
    | plain d => exact congrArg (some ∘ Token.plain) (Option.some.inj h)
    | escaped d => cases h
    | expression text => cases h

/-- Sound tokens are read one by one, up to the backtick behind them. -/
theorem readTemplate_spelling {tokens : List Token} (h : Sound tokens) (rest : List Char) :
    readTemplate none (spelling tokens ++ '\x60' :: rest) =
      some (tokens.map (·.piece), rest) := by
  induction tokens with
  | nil => simp [readTemplate]
  | cons token tokens ih =>
    obtain ⟨htoken, hnext, hrest⟩ := h
    rw [spelling_cons, List.append_assoc, List.map_cons]
    cases token with
    | plain c =>
      have hread : readTemplate none (c :: (spelling tokens ++ '\x60' :: rest)) =
          (readTemplate none (spelling tokens ++ '\x60' :: rest)).map fun (pieces, after) =>
            (.literal c :: pieces, after) := by
        rw [readTemplate]
        · exact htoken.2
        · exact fun _ _ e _ => htoken.1 e
        · exact fun e => absurd e htoken.1
        · rintro after rfl hafter
          exact hnext rfl (head_of_spelling (by decide) (congrArg List.head? hafter))
      exact hread.trans (by rw [ih hrest]; rfl)
    | escaped c =>
      show readTemplate none ('\\' :: c :: (spelling tokens ++ '\x60' :: rest)) = _
      rw [readTemplate, ih hrest]
      rfl
    | expression text =>
      show readTemplate none ('$' :: '\x7b' :: ((text ++ ['\x7d']) ++ _)) = _
      rw [readTemplate, List.append_assoc, List.singleton_append,
        readTemplate_expression (htoken _ (by decide)), ih hrest]
      rfl

/-! ## Escaped text -/

/-- The token for a character in front of `rest`. -/
def Token.ofChar (c : Char) (rest : List Char) : Token :=
  if c = '\\' ∨ c = '\x60' ∨ (c = '$' ∧ rest.head? = some '\x7b') then .escaped c else .plain c

/-- The tokens of a text whose characters are all literal. -/
def tokenize : List Char → List Token
  | [] => []
  | c :: rest => .ofChar c rest :: tokenize rest

theorem piece_ofChar (c : Char) (rest : List Char) :
    (Token.ofChar c rest).piece = .literal c := by
  unfold Token.ofChar
  split <;> rfl

theorem eq_of_ofChar {c d : Char} {rest : List Char} (h : Token.ofChar c rest = .plain d) :
    c = d := by
  have hpiece := piece_ofChar c rest
  rw [h] at hpiece
  exact (Piece.literal.inj hpiece).symm

theorem sound_ofChar (c : Char) (rest : List Char) : (Token.ofChar c rest).Sound := by
  unfold Token.ofChar
  split
  · rename_i h
    rintro rfl
    revert h
    simp
  · rename_i h
    exact ⟨fun e => h (.inl e), fun e => h (.inr (.inl e))⟩

/-- The first two replacements treat each character by itself. -/
theorem replaceAll_backslash_backtick (text : List Char) :
    Text.replaceAll '\x60' [] ['\\', '\x60'] (Text.replaceAll '\\' [] ['\\', '\\'] text) =
      text.flatMap fun c => if c = '\\' ∨ c = '\x60' then ['\\', c] else [c] := by
  rw [Text.replaceAll_char, Text.replaceAll_char, List.flatMap_assoc]
  refine List.flatMap_congr fun c _ => ?_
  by_cases hslash : c = '\\'
  · subst hslash; rfl
  · by_cases htick : c = '\x60'
    · subst htick; rfl
    · simp [hslash, htick]

/-- The first two replacements put no opening brace to the front and take none away. -/
theorem brace_occurs_iff (text : List Char) :
    ['\x7b'] <+: (text.flatMap fun c => if c = '\\' ∨ c = '\x60' then ['\\', c] else [c]) ↔
      text.head? = some '\x7b' := by
  cases text with
  | nil => simp
  | cons c rest =>
    rw [List.flatMap_cons]
    split
    · rename_i h
      rcases h with rfl | rfl <;> simp
    · simp [eq_comm]

/-- The three replacements treat each character by what follows it. -/
theorem templateChars_cons (c : Char) (rest : List Char) :
    templateChars (c :: rest) = (Token.ofChar c rest).text ++ templateChars rest := by
  simp only [templateChars, replaceAll_backslash_backtick, List.flatMap_cons]
  by_cases hescaped : c = '\\' ∨ c = '\x60'
  · have hdollar : '$' ∉ ['\\', c] := by rcases hescaped with rfl | rfl <;> decide
    rw [if_pos hescaped, Text.replaceAll_append_of_notMem hdollar, Token.ofChar,
      if_pos (by rcases hescaped with h | h <;> simp [h])]
    rfl
  · rw [if_neg hescaped, List.singleton_append]
    by_cases hc : c = '$'
    · subst hc
      by_cases hbrace : rest.head? = some '\x7b'
      · obtain ⟨rest, rfl⟩ : ∃ more, rest = '\x7b' :: more := by
          cases rest with
          | nil => cases hbrace
          | cons d rest => exact ⟨rest, by rw [Option.some.inj hbrace]⟩
        rw [Token.ofChar, if_pos (.inr (.inr ⟨rfl, hbrace⟩)), List.flatMap_cons]
        refine (Text.replaceAll_match '$' ['\x7b'] _ _).trans ?_
        exact congrArg ('\\' :: '$' :: ·)
          (Text.replaceAll_cons_ne (c := '\x7b') (by decide) _ _ _).symm
      · rw [Text.replaceAll_noMatch (fun h => hbrace ((brace_occurs_iff rest).mp h)), Token.ofChar,
          if_neg (by simp [hbrace])]
        rfl
    · have hplain : ¬ (c = '\\' ∨ c = '\x60' ∨ (c = '$' ∧ rest.head? = some '\x7b')) := by
        rintro (h | h | h)
        · exact hescaped (.inl h)
        · exact hescaped (.inr h)
        · exact hc h.1
      rw [Text.replaceAll_cons_ne hc, Token.ofChar, if_neg hplain]
      rfl

theorem spelling_tokenize (text : List Char) : spelling (tokenize text) = templateChars text := by
  induction text with
  | nil => rfl
  | cons c rest ih => rw [tokenize, spelling_cons, ih, templateChars_cons]

theorem head_tokenize {text : List Char}
    (h : (tokenize text).head? = some (.plain '\x7b')) : text.head? = some '\x7b' := by
  cases text with
  | nil => cases h
  | cons c rest =>
    exact congrArg some (eq_of_ofChar (Option.some.inj h))

/-- A dollar sign that is not escaped has no opening brace behind it. -/
theorem head_ne_of_ofChar {c : Char} {rest : List Char}
    (h : Token.ofChar c rest = .plain '$') : rest.head? ≠ some '\x7b' := by
  intro hrest
  unfold Token.ofChar at h
  split at h
  · cases h
  · rename_i hplain
    cases h
    exact hplain (.inr (.inr ⟨rfl, hrest⟩))

theorem sound_tokenize (text : List Char) : Sound (tokenize text) := by
  induction text with
  | nil => trivial
  | cons c rest ih =>
    exact ⟨sound_ofChar c rest, fun hplain hhead => head_ne_of_ofChar hplain (head_tokenize hhead),
      ih⟩

/-! ## Occurrences of an escaped text -/

/-- Where the first character of an escaped text stands, so does its token. -/
theorem token_of_spelling {tokens : List Token} (h : Sound tokens) {c : Char}
    {text rest : List Char}
    (hs : spelling tokens =
      (Token.ofChar c text).text ++ (spelling (tokenize text) ++ '\x7d' :: rest)) :
    ∃ after, tokens = .ofChar c text :: after ∧
      spelling after = spelling (tokenize text) ++ '\x7d' :: rest := by
  have hfirst := sound_ofChar c text
  cases hchar : Token.ofChar c text with
  | plain d =>
    rw [hchar] at hs hfirst
    cases tokens with
    | nil => cases hs
    | cons token tokens =>
      cases token with
      | plain e =>
        obtain ⟨rfl, htail⟩ := List.cons.inj hs
        exact ⟨tokens, rfl, htail⟩
      | escaped e => exact absurd (List.cons.inj hs).1.symm hfirst.1
      | expression other =>
        -- in an escaped text no plain dollar sign stands in front of a brace
        obtain ⟨rfl, htail⟩ := List.cons.inj hs
        have hbrace := head_of_spelling (by decide) (congrArg List.head? htail.symm)
        exact absurd (head_tokenize hbrace) (head_ne_of_ofChar hchar)
  | escaped d =>
    rw [hchar] at hs
    cases tokens with
    | nil => cases hs
    | cons token tokens =>
      cases token with
      | plain e => exact absurd (List.cons.inj hs).1 h.1.1
      | escaped e =>
        obtain ⟨rfl, htail⟩ := List.cons.inj (List.cons.inj hs).2
        exact ⟨tokens, rfl, htail⟩
      | expression other => cases hs
  | expression other =>
    have hpiece := piece_ofChar c text
    rw [hchar] at hpiece
    cases hpiece

/-- Where an escaped text with a closing brace occurs among sound tokens, it covers whole tokens.
-/
theorem split_of_spelling {tokens : List Token} (h : Sound tokens) {name rest : List Char}
    (hs : spelling tokens = templateChars name ++ '\x7d' :: rest) :
    ∃ after, tokens = tokenize name ++ .plain '\x7d' :: after ∧ spelling after = rest := by
  rw [← spelling_tokenize] at hs
  induction name generalizing tokens with
  | nil =>
    cases tokens with
    | nil => cases hs
    | cons token tokens =>
      cases token with
      | plain c => cases hs; exact ⟨tokens, rfl, rfl⟩
      | escaped c => cases hs
      | expression text => cases hs
  | cons c name ih =>
    rw [tokenize, spelling_cons, List.append_assoc] at hs
    obtain ⟨tokens, rfl, htail⟩ := token_of_spelling h hs
    obtain ⟨after, rfl, hrest⟩ := ih h.2.2 htail
    exact ⟨after, rfl, hrest⟩

end OpenApiClient.Client
