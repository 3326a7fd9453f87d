import OpenApiClient.Proofs.Client.Function
import OpenApiClient.Proofs.Client.Template

/-!
# Filling placeholders

A template gets its expressions by replacements in text that is escaped already, one for each
parameter, and each of them also goes over what earlier ones have put there. An occurrence that
starts in text covers whole tokens. One that starts at the brace of an expression takes the rest
of it along and leaves its dollar sign, which is harmless in front of the next expression.

Results:
* `fillPlaceholder_spelling`: filling the placeholders of one parameter keeps tokens sound.
* `fillPlaceholders_spelling`: so does filling those of any number of parameters.
-/
namespace OpenApiClient.Client

/-- The expression that stands for a parameter in the address. -/
def Argument.encoding (argument : Argument) : List Char :=
  ("encodeURIComponent(" ++ argument.ident ++ ")").toList

/-- No character of the expression means anything in a template. -/
def Argument.Inert (argument : Argument) : Prop := ∀ c ∈ Token.special, c ∉ argument.encoding

theorem placeholderValue_eq (argument : Argument) :
    (placeholderValue argument).toList = (Token.expression argument.encoding).text := by
  simp [placeholderValue, interpolated, Argument.encoding, Token.text]

theorem special_not_nameChar : ∀ c ∈ Token.special, ¬ Naming.NameChar c := by
  simp only [Token.special, List.forall_mem_cons, Naming.NameChar]
  refine ⟨?_, ?_, ?_, ?_, ?_, by simp⟩ <;> decide

/-- A name in the code has none of these characters, and neither has what stands around it. -/
theorem Argument.inert_of_chars {argument : Argument}
    (h : ∀ c ∈ argument.ident.toList, Naming.NameChar c) : argument.Inert := by
  intro c hc hmem
  have haround : ∀ c ∈ Token.special, c ∉ "encodeURIComponent(".toList ∧ c ∉ ")".toList := by
    simp [Token.special]
  simp only [encoding, String.toList_append, List.mem_append] at hmem
  rcases hmem with (hmem | hmem) | hmem
  · exact (haround c hc).1 hmem
  · exact special_not_nameChar c hc (h c hmem)
  · exact (haround c hc).2 hmem

theorem Token.text_length_pos (token : Token) : 0 < token.text.length := by
  cases token <;> simp [Token.text]

/-! ## One parameter -/

/-- What a replacement may do to tokens: they stay sound, no opening brace comes to the front, and
the only new expression is `value`. -/
structure Filled (value : List Char) (tokens filled : List Token) : Prop where
  sound : Sound filled
  head : filled.head? = some (.plain '\x7b') → tokens.head? = some (.plain '\x7b')
  expressions : ∀ text, .expression text ∈ filled → .expression text ∈ tokens ∨ text = value

namespace Filled

variable {value : List Char} {tokens filled : List Token}

theorem nil : Filled value [] [] := ⟨trivial, id, fun _ h => .inl h⟩

/-- A token is kept. -/
theorem keep {token : Token} (h : Sound (token :: tokens)) (hfilled : Filled value tokens filled) :
    Filled value (token :: tokens) (token :: filled) where
  sound := ⟨h.1, fun e hhead => h.2.1 e (hfilled.head hhead), hfilled.sound⟩
  head := id
  expressions := by
    intro text hm
    rcases List.mem_cons.mp hm with rfl | hm
    · exact .inl List.mem_cons_self
    · exact (hfilled.expressions text hm).imp_left fun h => List.mem_cons_of_mem token h

/-- An occurrence is replaced by an expression, here in front of the tokens `after` it. -/
theorem replace {after : List Token} (hvalue : (Token.expression value).Sound)
    (hafter : ∀ text, .expression text ∈ after → .expression text ∈ tokens)
    (hfilled : Filled value after filled) :
    Filled value tokens (.expression value :: filled) where
  sound := ⟨hvalue, nofun, hfilled.sound⟩
  head := nofun
  expressions := by
    intro text hm
    rcases List.mem_cons.mp hm with e | hm
    · exact .inr (Token.expression.inj e)
    · exact (hfilled.expressions text hm).imp_left (hafter text)

/-- The dollar sign of an expression stays behind. -/
theorem leave (h : Filled value tokens (.expression value :: filled)) :
    Filled value tokens (.plain '$' :: .expression value :: filled) where
  sound := ⟨by simp [Token.Sound], nofun, h.sound⟩
  head := nofun
  expressions := by
    intro text hm
    rcases List.mem_cons.mp hm with e | hm
    · cases e
    · exact h.expressions text hm

end Filled

/-- The tokens from inside an expression on, up to the end: its text and its closing brace are
characters like any other. -/
def unwrapped (text : List Char) (tokens : List Token) : List Token :=
  text.map .plain ++ .plain '\x7d' :: tokens

theorem spelling_unwrapped (text : List Char) (tokens : List Token) :
    spelling (unwrapped text tokens) = text ++ '\x7d' :: spelling tokens := by
  rw [unwrapped, spelling_append, spelling_cons]
  congr 1
  induction text with
  | nil => rfl
  | cons c text ih => rw [List.map_cons, spelling_cons, ih]; rfl

theorem sound_unwrapped {text : List Char} {tokens : List Token}
    (h : Sound (.expression text :: tokens)) : Sound (unwrapped text tokens) := by
  obtain ⟨htext, -, htokens⟩ := h
  unfold unwrapped
  induction text with
  | nil => exact ⟨by simp [Token.Sound], nofun, htokens⟩
  | cons c text ih =>
    have hc : ∀ d ∈ Token.special, d ≠ c ∧ d ∉ text := by
      intro d hd
      simpa only [List.mem_cons, not_or] using htext d hd
    refine ⟨⟨(hc '\\' (by decide)).1.symm, (hc '\x60' (by decide)).1.symm⟩, fun e => ?_,
      ih fun d hd => (hc d hd).2⟩
    exact absurd (Token.plain.inj e).symm (hc '$' (by decide)).1

theorem expression_mem_unwrapped {text other : List Char} {tokens : List Token}
    (h : .expression other ∈ unwrapped text tokens) : .expression other ∈ tokens := by
  rcases List.mem_append.mp h with h | h
  · obtain ⟨c, -, e⟩ := List.mem_map.mp h; cases e
  · rcases List.mem_cons.mp h with e | h
    · cases e
    · exact h

/-! ## Going over a template -/

section

variable {argument : Argument}

theorem fillPlaceholder_append {front : List Char} (h : '\x7b' ∉ front) (rest : List Char) :
    fillPlaceholder (front ++ rest) argument = front ++ fillPlaceholder rest argument :=
  Text.replaceAll_append_of_notMem h _ _ rest

/-- An occurrence among sound tokens is replaced, and the search goes on with the tokens behind
it. -/
theorem fillPlaceholder_match {tokens : List Token} (h : Sound tokens)
    (hm : templateChars argument.name.toList ++ ['\x7d'] <+: spelling tokens) :
    ∃ after, tokens = tokenize argument.name.toList ++ .plain '\x7d' :: after ∧
      fillPlaceholder ('\x7b' :: spelling tokens) argument =
        (Token.expression argument.encoding).text ++ fillPlaceholder (spelling after) argument := by
  obtain ⟨rest, hrest⟩ := hm
  have hspelling : spelling tokens = templateChars argument.name.toList ++ '\x7d' :: rest := by
    rw [← hrest, List.append_assoc, List.singleton_append]
  obtain ⟨after, hsplit, hafter⟩ := split_of_spelling h hspelling
  refine ⟨after, hsplit, ?_⟩
  rw [← hrest, hafter, ← placeholderValue_eq]
  exact Text.replaceAll_match _ _ _ _

theorem fillPlaceholder_noMatch {rest : List Char}
    (h : ¬ templateChars argument.name.toList ++ ['\x7d'] <+: rest) :
    fillPlaceholder ('\x7b' :: rest) argument = '\x7b' :: fillPlaceholder rest argument :=
  Text.replaceAll_noMatch h _

/-- An expression in which no occurrence begins is kept. -/
theorem fillPlaceholder_expression {text rest : List Char} (hbrace : '\x7b' ∉ text)
    (h : ¬ templateChars argument.name.toList ++ ['\x7d'] <+: text ++ '\x7d' :: rest) :
    fillPlaceholder ((Token.expression text).text ++ rest) argument =
      (Token.expression text).text ++ fillPlaceholder rest argument := by
  have hspelling : ∀ more, (Token.expression text).text ++ more =
      ['$'] ++ '\x7b' :: ((text ++ ['\x7d']) ++ more) := by simp [Token.text]
  rw [hspelling, hspelling, fillPlaceholder_append (by decide), fillPlaceholder_noMatch,
    fillPlaceholder_append (by simpa using hbrace)]
  simpa using h

end

/-- An occurrence behind an opening brace, in front of the tokens `others`: it is replaced, and the
rest is as the search in fewer characters leaves it. -/
theorem fillPlaceholder_occurrence {argument : Argument} (hargument : argument.Inert)
    {tokens others : List Token} (hothers : Sound others)
    (hexpressions : ∀ text, .expression text ∈ others → .expression text ∈ tokens)
    (hm : templateChars argument.name.toList ++ ['\x7d'] <+: spelling others)
    (ih : ∀ after, Sound after → (spelling after).length < (spelling others).length →
      ∃ filled, Filled argument.encoding after filled ∧
        fillPlaceholder (spelling after) argument = spelling filled) :
    ∃ filled, Filled argument.encoding tokens (.expression argument.encoding :: filled) ∧
      fillPlaceholder ('\x7b' :: spelling others) argument =
        spelling (.expression argument.encoding :: filled) := by
  obtain ⟨after, hsplit, hmatch⟩ := fillPlaceholder_match hothers hm
  subst hsplit
  have hless : (spelling after).length <
      (spelling (tokenize argument.name.toList ++ .plain '\x7d' :: after)).length := by
    simp only [spelling_append, spelling_cons, List.length_append, Token.text, List.length_cons]
    omega
  obtain ⟨filled, hfilled, hrest⟩ := ih after hothers.of_append.2.2 hless
  refine ⟨filled, .replace hargument (fun text hm => hexpressions text ?_) hfilled, ?_⟩
  · exact List.mem_append_right _ (List.mem_cons_of_mem _ hm)
  · rw [hmatch, hrest, spelling_cons]

/-- Filling the placeholders of a parameter keeps the tokens of a template sound and puts no
expression there but that of the parameter. -/
theorem fillPlaceholder_spelling {argument : Argument} (hargument : argument.Inert)
    {tokens : List Token} (h : Sound tokens) :
    ∃ filled, Filled argument.encoding tokens filled ∧
      fillPlaceholder (spelling tokens) argument = spelling filled := by
  -- the search goes on behind what it replaces, so the induction is on what is left to search
  induction hlength : (spelling tokens).length using Nat.strongRecOn generalizing tokens with
  | ind length ih =>
    cases tokens with
    | nil => exact ⟨[], .nil, rfl⟩
    | cons token tokens =>
      have hshort : (spelling tokens).length < length := by
        rw [← hlength, spelling_cons, List.length_append]
        have := token.text_length_pos
        omega
      obtain ⟨kept, hkept, hkeep⟩ := ih _ hshort h.2.2 rfl
      cases token with
      | plain c =>
        by_cases hc : c = '\x7b'
        · subst hc
          by_cases hm : templateChars argument.name.toList ++ ['\x7d'] <+: spelling tokens
          · obtain ⟨filled, hfilled, hspelling⟩ := fillPlaceholder_occurrence hargument h.2.2
              (fun text hm => List.mem_cons_of_mem _ hm) hm
              fun after hafter hless => ih _ (hless.trans hshort) hafter rfl
            exact ⟨_, hfilled, hspelling⟩
          · exact ⟨_, .keep h hkept, (fillPlaceholder_noMatch hm).trans (by rw [hkeep]; rfl)⟩
        · have hbrace : '\x7b' ∉ (Token.plain c).text := by simpa [Token.text] using Ne.symm hc
          refine ⟨_, .keep h hkept, ?_⟩
          rw [spelling_cons, fillPlaceholder_append hbrace, hkeep, spelling_cons]
      | escaped c =>
        have hbrace : '\x7b' ∉ (Token.escaped c).text := by
          simpa [Token.text] using Ne.symm h.1
        refine ⟨_, .keep h hkept, ?_⟩
        rw [spelling_cons, fillPlaceholder_append hbrace, hkeep, spelling_cons]
      | expression text =>
        by_cases hm :
            templateChars argument.name.toList ++ ['\x7d'] <+: spelling (unwrapped text tokens)
        · have hspelling : spelling (.expression text :: tokens) =
              ['$'] ++ '\x7b' :: spelling (unwrapped text tokens) := by
            rw [spelling_unwrapped, spelling_cons]
            simp [Token.text]
          have hless : (spelling (unwrapped text tokens)).length < length := by
            rw [← hlength, hspelling]
            simp
          obtain ⟨filled, hfilled, hfill⟩ := fillPlaceholder_occurrence hargument
            (sound_unwrapped h)
            (fun other hm => List.mem_cons_of_mem _ (expression_mem_unwrapped hm)) hm
            fun after hafter hafterLess => ih _ (hafterLess.trans hless) hafter rfl
          refine ⟨_, hfilled.leave, ?_⟩
          rw [hspelling, fillPlaceholder_append (by decide), hfill]
          rfl
        · rw [spelling_unwrapped] at hm
          refine ⟨_, .keep h hkept, ?_⟩
          rw [spelling_cons, fillPlaceholder_expression (h.1 '\x7b' (by decide)) hm, hkeep,
            spelling_cons]

/-! ## Any number of parameters -/

/-- Filling the placeholders of all parameters in turn keeps the tokens of a template sound and
puts no expressions there but those of the parameters. -/
theorem fillPlaceholders_spelling {arguments : List Argument}
    (hall : ∀ argument ∈ arguments, argument.Inert) {tokens : List Token} (h : Sound tokens) :
    ∃ filled, Sound filled ∧
      arguments.foldl fillPlaceholder (spelling tokens) = spelling filled ∧
      ∀ text, .expression text ∈ filled →
        .expression text ∈ tokens ∨ ∃ argument ∈ arguments, text = argument.encoding := by
  induction arguments generalizing tokens with
  | nil => exact ⟨tokens, h, rfl, fun _ => .inl⟩
  | cons argument rest ih =>
    rw [List.forall_mem_cons] at hall
    obtain ⟨first, hfirst, hspelling⟩ := fillPlaceholder_spelling hall.1 h
    obtain ⟨filled, hsound, hrest, hexpressions⟩ := ih hall.2 hfirst.sound
    refine ⟨filled, hsound, by rw [List.foldl_cons, hspelling, hrest], fun text hm => ?_⟩
    rcases hexpressions text hm with hm | ⟨other, hother, e⟩
    · exact (hfirst.expressions text hm).imp_right fun e => ⟨argument, List.mem_cons_self, e⟩
    · exact .inr ⟨other, List.mem_cons_of_mem _ hother, e⟩

end OpenApiClient.Client
