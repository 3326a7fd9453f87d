import OpenApiClient.Proofs.Client.Banner
import OpenApiClient.Proofs.Command.Containment
import OpenApiClient.Proofs.Text.Quoted

/-!
# The string literals of a preamble

The preamble of a module says where the error helper is imported from, and what the base of all
addresses is, in string literals between single quotes. Backslashes and quotes in them are escaped,
and nothing else is: a line end stays a line end, and the language allows none in such a literal.

Results:
* `readSingleQuoted_flatMap`: a text is read from what is written for it, if it is one line.
* `literalFor_writtenLiteral`, `LiteralFor.unique`: what is written for one line is a literal for
  it, and where any literal stands, something was written for one line.
* `content_moduleFile`: where the literals stand in the file of a module.
* `literals_kept_iff`: exactly when the literals of a module file mean what was asked for.
-/
namespace OpenApiClient

open Client

namespace Output

/-! ## Reading string literals -/

/-- What a character stands for behind a backslash: some letters for controls, and every other
character for itself. Escapes by number and escaped line ends are none of these. -/
def escaped? (c : Char) : Option Char :=
  if c.isDigit ∨ c ∈ ['x', 'u', '\n', '\r', '\u2028', '\u2029'] then none
  else
    some (([('b', '\x08'), ('f', '\x0c'), ('n', '\n'), ('r', '\r'), ('t', '\t'),
      ('v', '\x0b')].lookup c).getD c)

/-- Reads a string literal behind its opening quote, up to its closing quote, and gives what
follows. Line feeds and carriage returns may not stand in it, other separators of lines may. -/
def readSingleQuoted : List Char → Option (List Char × List Char)
  | [] => none
  | '\x27' :: rest => some ([], rest)
  | '\\' :: c :: rest => (escaped? c).bind fun d => Text.prepend d (readSingleQuoted rest)
  | c :: rest =>
    if c = '\\' ∨ c ∈ Client.Reading.text.lineEnds then none
    else Text.prepend c (readSingleQuoted rest)

/-- Reads a string literal at the beginning of a text, and gives what follows. -/
def readString : List Char → Option (List Char × List Char)
  | '\x27' :: rest => readSingleQuoted rest
  | _ => none

/-- A piece of code is a string literal for a text: it stands on one line, and its first quote
opens a literal that has the text as its value and closes at the last quote, whatever follows. -/
structure LiteralFor (literal text : String) : Prop where
  oneLine : OneLine .text literal
  read : ∀ rest, readString (literal.toList ++ rest) = some (text.toList, rest)

/-- What is written for one character of a text. -/
def literalChar (c : Char) : List Char :=
  if c = '\\' then ['\\', '\\'] else if c = '\x27' then ['\\', '\x27'] else [c]

/-- The second replacement finds no quote that the first one has put there. -/
theorem singleQuoted_eq (text : List Char) :
    singleQuoted text = '\x27' :: (text.flatMap literalChar ++ ['\x27']) := by
  have hchar : ∀ c, (if c = '\\' then ['\\', '\\'] else [c]).flatMap
      (fun d => if d = '\x27' then ['\\', '\x27'] else [d]) = literalChar c := by
    intro c
    unfold literalChar
    split
    · rfl
    · simp
  rw [singleQuoted, Text.replaceAll_char, Text.replaceAll_char, List.flatMap_assoc]
  simp only [hchar]

theorem readSingleQuoted_plain {c : Char} (hquote : c ≠ '\x27') (hbackslash : c ≠ '\\')
    (hend : c ∉ Client.Reading.text.lineEnds) (rest : List Char) :
    readSingleQuoted (c :: rest) = Text.prepend c (readSingleQuoted rest) := by
  rw [readSingleQuoted]
  · rw [if_neg (not_or.mpr ⟨hbackslash, hend⟩)]
  · exact hquote
  · exact fun _ _ e => absurd e hbackslash

/-- No literal goes on behind a line end. -/
theorem readSingleQuoted_lineEnd {c : Char} (h : c ∈ Client.Reading.text.lineEnds)
    (rest : List Char) : readSingleQuoted (c :: rest) = none := by
  simp only [Client.Reading.lineEnds, List.mem_cons, List.not_mem_nil, or_false] at h
  rcases h with rfl | rfl <;> rfl

/-- One character is read from what is written for it. -/
theorem readSingleQuoted_literalChar {c : Char} (h : c ∉ Client.Reading.text.lineEnds)
    (rest : List Char) :
    readSingleQuoted (literalChar c ++ rest) = Text.prepend c (readSingleQuoted rest) := by
  unfold literalChar
  split
  · subst c; rfl
  · split
    · subst c; rfl
    · exact readSingleQuoted_plain ‹_› ‹_› h rest

/-- A text is read from what is written for it, if it is one line. -/
theorem readSingleQuoted_flatMap {text : List Char}
    (h : ∀ c ∈ text, c ∉ Client.Reading.text.lineEnds) (rest : List Char) :
    readSingleQuoted (text.flatMap literalChar ++ rest) =
      (readSingleQuoted rest).map fun (value, after) => (text ++ value, after) := by
  induction text with
  | nil => simp
  | cons c more ih =>
    rw [List.forall_mem_cons] at h
    rw [List.flatMap_cons, List.append_assoc, readSingleQuoted_literalChar h.1, ih h.2,
      Text.prepend, Option.map_map]
    rfl

/-! ## Literals as they are written -/

/-- What stands in a file for a text that the code has as a string literal. -/
def writtenLiteral (text : String) : String := unifiedLineEnds (stringLiteral text)

theorem writtenLiteral_toList (text : String) :
    (writtenLiteral text).toList =
      Text.unifyLineEnds ('\x27' :: (text.toList.flatMap literalChar ++ ['\x27'])) := by
  rw [writtenLiteral, unifiedLineEnds, String.toList_ofList, stringLiteral, String.toList_ofList,
    singleQuoted_eq]

/-- Escaping a text brings no line end. -/
theorem lineEnd_mem_flatMap_iff {text : List Char} {c : Char}
    (h : c ∈ Client.Reading.text.lineEnds) : c ∈ text.flatMap literalChar ↔ c ∈ text := by
  have hquote : c ≠ '\x27' := fun e => absurd h (by rw [e]; decide)
  have hbackslash : c ≠ '\\' := fun e => absurd h (by rw [e]; decide)
  have hchar : ∀ d, c ∈ literalChar d ↔ c = d := by
    intro d
    unfold literalChar
    split
    · subst d; simp [hbackslash]
    · split
      · subst d; simp [hquote, hbackslash]
      · simp
  simp [List.mem_flatMap, hchar]

/-- What is written for a line is a literal for it. -/
theorem literalFor_writtenLiteral {text : String} (h : OneLine .text text) :
    LiteralFor (writtenLiteral text) text := by
  have hbody : ∀ c ∈ text.toList.flatMap literalChar, c ∉ Client.Reading.text.lineEnds :=
    fun c hc hend => h c ((lineEnd_mem_flatMap_iff hend).mp hc) hend
  have hreturn : '\r' ∉ '\x27' :: (text.toList.flatMap literalChar ++ ['\x27']) := by
    simpa using fun hm => hbody _ hm (by decide)
  have hwritten : (writtenLiteral text).toList =
      '\x27' :: (text.toList.flatMap literalChar ++ ['\x27']) := by
    have hkept := Text.unifyLineEnds_append hreturn []
    rw [List.append_nil, Text.unifyLineEnds_nil, List.append_nil] at hkept
    rw [writtenLiteral_toList, hkept]
  constructor
  · intro c hc hend
    rw [hwritten, List.mem_cons, List.mem_append, List.mem_singleton] at hc
    rcases hc with rfl | hc | rfl
    · exact absurd hend (by decide)
    · exact hbody c hc hend
    · exact absurd hend (by decide)
  · intro rest
    rw [hwritten, List.cons_append, List.append_assoc, readString, readSingleQuoted_flatMap h]
    simp [readSingleQuoted]

/-- Up to its first line end a text is read from what is written for it, and then nothing is. -/
theorem readSingleQuoted_unifyLineEnds_eq_none {text : List Char}
    (h : ∃ c ∈ text, c ∈ Client.Reading.text.lineEnds) (back rest : List Char) :
    readSingleQuoted (Text.unifyLineEnds (text.flatMap literalChar ++ back) ++ rest) = none := by
  induction text with
  | nil =>
    obtain ⟨c, hc, -⟩ := h
    cases hc
  | cons c more ih =>
    rw [List.flatMap_cons, List.append_assoc]
    by_cases hend : c ∈ Client.Reading.text.lineEnds
    · have hhead : (Text.unifyLineEnds
          (literalChar c ++ (more.flatMap literalChar ++ back))).head? = some '\n' := by
        simp only [Client.Reading.lineEnds, List.mem_cons, List.not_mem_nil, or_false] at hend
        rw [Text.head_unifyLineEnds]
        rcases hend with rfl | rfl <;> rfl
      obtain ⟨after, hafter⟩ := List.head?_eq_some_iff.mp hhead
      rw [hafter, List.cons_append]
      exact readSingleQuoted_lineEnd (by decide) _
    · obtain ⟨d, hd, hdend⟩ := h
      have hmore : ∃ d ∈ more, d ∈ Client.Reading.text.lineEnds := by
        rcases List.mem_cons.mp hd with rfl | hd
        · exact absurd hdend hend
        · exact ⟨d, hd, hdend⟩
      have hreturn : '\r' ∉ literalChar c := by
        intro hm
        have hin : '\r' ∈ [c].flatMap literalChar := by rwa [List.flatMap_singleton]
        rw [lineEnd_mem_flatMap_iff (by decide), List.mem_singleton] at hin
        exact hend (hin ▸ by decide)
      rw [Text.unifyLineEnds_append hreturn, List.append_assoc, readSingleQuoted_literalChar hend,
        ih hmore]
      rfl

/-- No literal is read from what is written for a text with a line end, whatever follows. -/
theorem readString_writtenLiteral_eq_none {text : String} (h : ¬ OneLine .text text)
    (rest : List Char) : readString ((writtenLiteral text).toList ++ rest) = none := by
  have hend : ∃ c ∈ text.toList, c ∈ Client.Reading.text.lineEnds := by
    unfold OneLine at h
    simpa only [not_forall, not_not, exists_prop] using h
  rw [writtenLiteral_toList, Text.unifyLineEnds_cons_ne (by decide), List.cons_append, readString]
  exact readSingleQuoted_unifyLineEnds_eq_none hend _ rest

/-- Where a text begins with a literal, it begins with no other one: what is written for a text
there is written for one line, and the same follows. -/
theorem LiteralFor.unique {literal value text rest other : String} (h : LiteralFor literal value)
    (hsame : literal ++ rest = writtenLiteral text ++ other) :
    OneLine .text text ∧ rest = other := by
  have hread := h.read rest.toList
  rw [← String.toList_append, hsame, String.toList_append] at hread
  by_cases hone : OneLine .text text
  · rw [(literalFor_writtenLiteral hone).read] at hread
    obtain ⟨-, hrest⟩ := Prod.mk.inj (Option.some.inj hread)
    exact ⟨hone, (String.toList_inj.mp hrest).symm⟩
  · rw [readString_writtenLiteral_eq_none hone] at hread
    cases hread

/-! ## Where the literals stand -/

/-- A base without the slashes at the end of an address. -/
structure IsBaseOf (base address : String) : Prop where
  slashes : ∃ slashes, address.toList = base.toList ++ slashes ∧ ∀ c ∈ slashes, c = '/'
  last : base.toList.getLast? ≠ some '/'

theorem isBaseOf_withoutTrailingSlashes (address : String) :
    IsBaseOf (withoutTrailingSlashes address) address := by
  unfold withoutTrailingSlashes
  constructor
  · refine ⟨(address.toList.reverse.takeWhile (· = '/')).reverse, ?_, fun c hc => ?_⟩
    · rw [String.toList_ofList, ← List.reverse_append, List.takeWhile_append_dropWhile,
        List.reverse_reverse]
    · have hslash := List.mem_takeWhile_imp (List.mem_reverse.mp hc)
      exact of_decide_eq_true hslash
  · rw [String.toList_ofList, List.getLast?_reverse]
    intro hlast
    have hslash := List.head?_dropWhile_not (· = '/') address.toList.reverse
    rw [hlast] at hslash
    simp at hslash

/-- Slashes are no line ends. -/
theorem oneLine_base_iff {base address : String} (h : IsBaseOf base address) :
    OneLine .text base ↔ OneLine .text address := by
  obtain ⟨slashes, haddress, hslashes⟩ := h.slashes
  have hnone : ∀ c ∈ slashes, c ∉ Client.Reading.text.lineEnds := by
    intro c hc
    rw [hslashes c hc]
    decide
  unfold OneLine
  rw [haddress, List.forall_mem_append, and_iff_left hnone]

/-- Code without carriage returns in front of a text is kept. -/
theorem unifiedLineEnds_append {front : String} (h : '\r' ∉ front.toList) (back : String) :
    unifiedLineEnds (front ++ back) = front ++ unifiedLineEnds back := by
  unfold unifiedLineEnds
  rw [String.toList_append, Text.unifyLineEnds_append h, String.ofList_append,
    String.ofList_toList]

/-- Two texts are written one after the other, unless the second one begins with a line feed. -/
theorem unifiedLineEnds_append_back {back : String} (h : back.toList.head? ≠ some '\n')
    (front : String) :
    unifiedLineEnds (front ++ back) = unifiedLineEnds front ++ unifiedLineEnds back := by
  unfold unifiedLineEnds
  rw [String.toList_append, Text.unifyLineEnds_append_back h, String.ofList_append]

/-- A literal that is the last thing of a statement is written by itself. -/
theorem unifiedLineEnds_statement (front text back : String) (hfront : '\r' ∉ front.toList) :
    unifiedLineEnds (front ++ stringLiteral text ++ ";\n" ++ back) =
      front ++ writtenLiteral text ++ ";\n" ++ unifiedLineEnds back := by
  have hsemicolon : (";\n" ++ back).toList.head? ≠ some '\n' := by simp
  rw [String.append_assoc, String.append_assoc, unifiedLineEnds_append hfront,
    unifiedLineEnds_append_back hsemicolon, unifiedLineEnds_append (by decide),
    String.append_assoc, String.append_assoc]
  rfl

theorem Preamble.render_append (preamble : Preamble) (back : String) :
    preamble.render ++ back =
      "import extractErrorMessage from " ++ stringLiteral preamble.errorHelper ++ ";\n" ++
        ("\n" ++ (preamble.baseLines ++ back)) := by
  unfold render importLine
  simp only [String.append_assoc]

/-- The file of a module behind its banner. -/
theorem content_moduleFile (banner : String) (preamble : Preamble) (layout : Layout)
    (module : ClientModule) :
    (moduleFile banner preamble layout module).content =
      unifiedLineEnds (banner ++ "\n") ++
        ("import extractErrorMessage from " ++ writtenLiteral preamble.errorHelper ++ ";\n" ++
          ("\n" ++ unifiedLineEnds (preamble.baseLines ++ ("\n" ++ module.code)))) := by
  have hfile : (moduleFile banner preamble layout module).content =
      unifiedLineEnds (banner ++ "\n" ++ (preamble.render ++ ("\n" ++ module.code))) := by
    rw [← String.append_assoc, ← String.append_assoc]
    rfl
  have himport := unifiedLineEnds_statement "import extractErrorMessage from "
    preamble.errorHelper ("\n" ++ (preamble.baseLines ++ ("\n" ++ module.code))) (by simp)
  have hblank : unifiedLineEnds ("\n" ++ (preamble.baseLines ++ ("\n" ++ module.code))) =
      "\n" ++ unifiedLineEnds (preamble.baseLines ++ ("\n" ++ module.code)) :=
    unifiedLineEnds_append (by decide) _
  rw [hfile, Preamble.render_append, unifiedLineEnds_append_back (by simp), himport, hblank]

/-- A given base, and what follows it. -/
theorem unifiedLineEnds_baseLines {preamble : Preamble} {address : String}
    (h : preamble.baseUrl = some address) (back : String) :
    unifiedLineEnds (preamble.baseLines ++ back) =
      "const BASE_URL = " ++ writtenLiteral (withoutTrailingSlashes address) ++ ";\n" ++
        unifiedLineEnds back := by
  rw [Preamble.baseLines, h]
  exact unifiedLineEnds_statement _ _ _ (by simp)

end Output

namespace Command

open Output

/-- Behind `front` a file has the import of the error helper, from a literal for the text that was
asked for, and then the base, if one was asked for, as a literal for it without the slashes at its
end. -/
def LiteralsKept (wishes : Wishes) (front content : String) : Prop :=
  ∃ helper rest : String,
    content = front ++
      ("import extractErrorMessage from " ++ helper ++ ";\n" ++ ("\n" ++ rest)) ∧
    LiteralFor helper wishes.errorHelper ∧
    ∀ address, wishes.baseUrl = some address →
      ∃ base literal more : String, rest = "const BASE_URL = " ++ literal ++ ";\n" ++ more ∧
        LiteralFor literal base ∧ IsBaseOf base address

/-- Neither the error helper nor the base is looked at before settings are accepted. -/
theorem ofWishes_literals {wishes : Wishes} {settings : Settings}
    (h : Settings.ofWishes wishes = .ok settings) (helper : String) (address : Option String) :
    ∃ other, Settings.ofWishes { wishes with errorHelper := helper, baseUrl := address } =
      .ok other := by
  obtain ⟨hboth, hextension, hname, hport, -⟩ := of_ofWishes_eq_ok h
  unfold Settings.ofWishes
  simp [hboth, hextension, isBareName_iff.mpr hname, hport]

/-- Where a file has the import and the base as they are written, its literals mean what was asked
for exactly if that is one line each. -/
theorem literalsKept_iff {wishes : Wishes} {front content rest : String}
    (hcontent : content = front ++ ("import extractErrorMessage from " ++
      writtenLiteral wishes.errorHelper ++ ";\n" ++ ("\n" ++ rest)))
    (hbase : ∀ address, wishes.baseUrl = some address → ∃ more, rest =
      "const BASE_URL = " ++ writtenLiteral (withoutTrailingSlashes address) ++ ";\n" ++ more) :
    LiteralsKept wishes front content ↔
      OneLine .text wishes.errorHelper ∧
        ∀ address, wishes.baseUrl = some address → OneLine .text address := by
  constructor
  · rintro ⟨helper, others, hothers, hhelper, haddress⟩
    rw [hcontent, String.append_right_inj, String.append_assoc, String.append_assoc,
      String.append_assoc, String.append_assoc, String.append_right_inj] at hothers
    obtain ⟨hone, hrest⟩ := hhelper.unique hothers.symm
    obtain rfl : others = rest := by simpa using hrest
    refine ⟨hone, fun address hsome => ?_⟩
    obtain ⟨base, literal, more, hliteral, hvalue, -⟩ := haddress address hsome
    obtain ⟨after, hafter⟩ := hbase address hsome
    rw [hafter, String.append_assoc, String.append_assoc, String.append_assoc,
      String.append_assoc, String.append_right_inj] at hliteral
    have hshort := isBaseOf_withoutTrailingSlashes address
    exact (oneLine_base_iff hshort).mp (hvalue.unique hliteral.symm).1
  · rintro ⟨hhelper, haddress⟩
    refine ⟨_, rest, hcontent, literalFor_writtenLiteral hhelper, fun address hsome => ?_⟩
    obtain ⟨more, hmore⟩ := hbase address hsome
    have hshort := isBaseOf_withoutTrailingSlashes address
    exact ⟨_, _, more, hmore,
      literalFor_writtenLiteral ((oneLine_base_iff hshort).mpr (haddress address hsome)), hshort⟩

/-- The literals of a module file mean what was asked for exactly if that is one line each. -/
theorem literalsKept_moduleFile_iff {wishes : Wishes} {settings : Settings}
    (h : Settings.ofWishes wishes = .ok settings) (banner : String) (module : ClientModule) :
    LiteralsKept wishes (unifiedLineEnds (banner ++ "\n"))
        (moduleFile banner settings.preamble settings.layout module).content ↔
      OneLine .text wishes.errorHelper ∧
        ∀ address, wishes.baseUrl = some address → OneLine .text address := by
  obtain ⟨-, -, -, -, hsettings⟩ := of_ofWishes_eq_ok h
  have hcontent := content_moduleFile banner settings.preamble settings.layout module
  rw [hsettings] at hcontent ⊢
  exact literalsKept_iff hcontent fun address hsome =>
    ⟨_, unifiedLineEnds_baseLines hsome ("\n" ++ module.code)⟩

/-- Settings are accepted whatever the error helper and the base are. In the file of every module
the literals for them are literals for just these texts, the base without the slashes at its end,
exactly if neither text has a line end. -/
theorem literals_kept_iff (spell : List Char → List Char) (parse : List Char → Option MediaType)
    {wishes : Wishes} {settings : Settings} (h : Settings.ofWishes wishes = .ok settings)
    (document : Document) (source : String) :
    (∀ helper address, ∃ other,
      Settings.ofWishes { wishes with errorHelper := helper, baseUrl := address } = .ok other) ∧
    ∀ file ∈ (generate spell parse document settings.preamble settings.layout source).modules,
      LiteralsKept wishes (unifiedLineEnds (banner document source ++ "\n")) file.content ↔
        OneLine .text wishes.errorHelper ∧
          ∀ address, wishes.baseUrl = some address → OneLine .text address := by
  refine ⟨ofWishes_literals h, fun file hfile => ?_⟩
  rw [modules_generate] at hfile
  obtain ⟨module, -, rfl⟩ := List.mem_map.mp hfile
  exact literalsKept_moduleFile_iff h _ module

/-! ## Texts that are kept and texts that are not -/

/-- A run for one operation gives the file of a module. -/
theorem exists_moduleFile_pets (settings : Settings) :
    ∃ module, moduleFile (banner (onePath "/pets/list") "api.json") settings.preamble
        settings.layout module ∈ (generatedPets settings).modules := by
  have hmodules : ((onePath "/pets/list").grouping Text.latin MediaType.ofText?).modules ≠ [] := by
    decide +kernel
  obtain ⟨module, hm⟩ := List.exists_mem_of_ne_nil _ hmodules
  refine ⟨module, ?_⟩
  rw [generatedPets, modules_generate]
  exact List.mem_map_of_mem hm

/-- What becomes of wishes in the files for one operation: some module file has literals that do
not mean what was asked for. -/
def LiteralsLost (wishes : Wishes) : Prop :=
  ∃ settings, Settings.ofWishes wishes = .ok settings ∧
    ∃ file ∈ (generatedPets settings).modules,
      ¬ LiteralsKept wishes
        (unifiedLineEnds (banner (onePath "/pets/list") "api.json" ++ "\n")) file.content

/-- Quotes and backslashes everywhere, and slashes at the end of the base. -/
def awkwardWishes : Wishes :=
  { input := "api.json"
    output := "out"
    errorHelper := "it's\\'\\\\\u2028"
    baseUrl := some "'http://host\\//" }

theorem literals_kept_iff_awkward :
    ∃ settings, Settings.ofWishes awkwardWishes = .ok settings ∧
      ∃ file ∈ (generatedPets settings).modules,
        LiteralsKept awkwardWishes
          (unifiedLineEnds (banner (onePath "/pets/list") "api.json" ++ "\n")) file.content := by
  obtain ⟨settings, hsettings⟩ : ∃ settings, Settings.ofWishes awkwardWishes = .ok settings :=
    ⟨_, rfl⟩
  obtain ⟨module, hfile⟩ := exists_moduleFile_pets settings
  obtain ⟨-, hkept⟩ := literals_kept_iff Text.latin MediaType.ofText? hsettings
    (onePath "/pets/list") "api.json"
  refine ⟨settings, hsettings, _, hfile, (hkept _ hfile).mpr ⟨by decide, fun address hsome => ?_⟩⟩
  obtain rfl := Option.some.inj hsome
  decide

/-- A line feed in the error helper is accepted and breaks its literal, and so does a carriage
return at the end of the base. -/
theorem literals_not_always_kept :
    LiteralsLost { input := "api.json", output := "out", errorHelper := "./errors\nhelper" } ∧
      LiteralsLost
        { input := "api.json", output := "out", baseUrl := some "http://localhost\r/" } := by
  have hlost : ∀ {wishes : Wishes} {settings : Settings},
      Settings.ofWishes wishes = .ok settings →
        ¬ (OneLine .text wishes.errorHelper ∧
          ∀ address, wishes.baseUrl = some address → OneLine .text address) →
        LiteralsLost wishes := by
    intro wishes settings hsettings hbroken
    obtain ⟨module, hfile⟩ := exists_moduleFile_pets settings
    exact ⟨settings, hsettings, _, hfile, fun hkept =>
      hbroken ((literalsKept_moduleFile_iff hsettings _ module).mp hkept)⟩
  constructor
  · exact hlost rfl fun h => absurd h.1 (by decide)
  · exact hlost rfl fun h => absurd (h.2 _ rfl) (by decide)

end Command

end OpenApiClient
