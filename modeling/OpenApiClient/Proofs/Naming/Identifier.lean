import Mathlib
import OpenApiClient.Naming.Identifier
import OpenApiClient.Naming.PropertyKey

/-!
# What names look like

A name is made of humps, the humps of words, and the words of a text spelt in ASCII. Each stage
keeps letters and digits, so that a name can stand in code wherever an identifier can.

Results:
* `humps_flatten`, `humps_ne_nil`: humps cut a word into pieces, none of them empty.
* `identifierBy_alphanum`, `head_identifierBy`: an identifier has letters and digits only, and no
  capital first.
* `functionNameBy_eq_empty_iff`, `shaped_functionNameBy`: a name is empty if the identifier is, and
  has the form of a name of the language if not.
* `functionNameBy_notMem_reservedWords`: no name is a reserved word.
-/
namespace OpenApiClient.Naming

/-! ## Words and humps -/

theorem attach_flatten (c : Char) (humps : List (List Char)) :
    (attach c humps).flatten = c :: humps.flatten := by
  cases humps <;> simp [attach]

theorem attach_ne_nil {c : Char} {humps : List (List Char)} (h : ∀ hump ∈ humps.tail, hump ≠ []) :
    ∀ hump ∈ attach c humps, hump ≠ [] := by
  cases humps with
  | nil => simp [attach]
  | cons first more =>
    intro hump hm
    simp only [attach, List.mem_cons] at hm
    rcases hm with rfl | hm
    · simp
    · exact h hump hm

theorem words_alphanum (text : List Char) : ∀ word ∈ words text, ∀ c ∈ word, c.isAlphanum := by
  fun_induction words text with
  | case1 => simp
  | case2 c hc => simpa using hc
  | case3 c hc next more hnext ih =>
    intro word hw d hd
    have hmem : d ∈ (attach c (words (next :: more))).flatten :=
      List.mem_flatten.mpr ⟨word, hw, hd⟩
    rw [attach_flatten, List.mem_cons, List.mem_flatten] at hmem
    rcases hmem with rfl | ⟨word', hw', hd'⟩
    · exact hc
    · exact ih word' hw' d hd'
  | case4 c hc next more hnext ih =>
    intro word hw d hd
    rcases List.mem_cons.mp hw with rfl | hw
    · rw [List.mem_singleton] at hd; subst hd; exact hc
    · exact ih word hw d hd
  | case5 c rest hc ih => exact ih

theorem humpsAfter_flatten (previous : Char) (run : Nat) (text : List Char) :
    (humpsAfter previous run text).flatten = text := by
  induction text generalizing previous run with
  | nil => rfl
  | cons c rest ih =>
    simp only [humpsAfter]
    split <;> simp [attach_flatten, ih]

/-- Only the first hump of what follows a character can be empty. -/
theorem humpsAfter_tail_ne_nil (previous : Char) (run : Nat) (text : List Char) :
    ∀ hump ∈ (humpsAfter previous run text).tail, hump ≠ [] := by
  induction text generalizing previous run with
  | nil => simp [humpsAfter]
  | cons c rest ih =>
    have hall := attach_ne_nil (c := c) (ih c (extendRun run c))
    simp only [humpsAfter]
    split
    · exact hall
    · exact fun hump hm => hall hump (List.mem_of_mem_tail hm)

theorem humps_flatten (word : List Char) : (humps word).flatten = word := by
  cases word with
  | nil => rfl
  | cons c rest => rw [humps, attach_flatten, humpsAfter_flatten]

theorem humps_ne_nil (word : List Char) : ∀ hump ∈ humps word, hump ≠ [] := by
  cases word with
  | nil => simp [humps]
  | cons c rest => exact attach_ne_nil (humpsAfter_tail_ne_nil c _ rest)

section

variable (spell : List Char → List Char) (text : List Char)

theorem humpsBy_ne_nil : ∀ hump ∈ humpsBy spell text, hump ≠ [] := by
  intro hump hm
  obtain ⟨word, -, hm⟩ := List.mem_flatMap.mp hm
  exact humps_ne_nil word hump hm

theorem humpsBy_alphanum : ∀ hump ∈ humpsBy spell text, ∀ c ∈ hump, c.isAlphanum := by
  intro hump hm c hc
  obtain ⟨word, hw, hm⟩ := List.mem_flatMap.mp hm
  have hcw : c ∈ word := by
    rw [← humps_flatten word]; exact List.mem_flatten.mpr ⟨hump, hm, hc⟩
  exact words_alphanum _ word hw c hcw

end

/-! ## Letter case -/

theorem not_isAlpha_of_isDigit {c : Char} (h : c.isDigit) : ¬ c.isAlpha := by
  simp only [Char.isDigit, Char.isAlpha, Char.isUpper, Char.isLower, Bool.or_eq_true,
    Bool.and_eq_true, decide_eq_true_eq, UInt32.le_iff_toNat_le] at h ⊢
  simp at h ⊢
  omega

theorem toLower_alphanum {c : Char} (h : c.isAlphanum) : c.toLower.isAlphanum := by
  simp only [Char.isAlphanum, Bool.or_eq_true] at h ⊢
  rcases h with h | h
  · exact .inl (by simpa using h)
  · right
    have hu : ¬ c.isUpper := fun hupper =>
      not_isAlpha_of_isDigit h (by simp [Char.isAlpha, hupper])
    rw [Char.toLower_eq_of_not_isUpper hu]; exact h

theorem toUpper_alphanum {c : Char} (h : c.isAlphanum) : c.toUpper.isAlphanum := by
  simp only [Char.isAlphanum, Bool.or_eq_true] at h ⊢
  rcases h with h | h
  · exact .inl (by simpa using h)
  · right
    have hl : ¬ c.isLower := fun hlower =>
      not_isAlpha_of_isDigit h (by simp [Char.isAlpha, hlower])
    rw [Char.toUpper_eq_of_not_isLower hl]; exact h

theorem capitalized_alphanum {hump : List Char} (h : ∀ c ∈ hump, c.isAlphanum) :
    ∀ c ∈ capitalized hump, c.isAlphanum := by
  cases hump with
  | nil => simp [capitalized]
  | cons first rest =>
    intro c hc
    simp only [capitalized, List.mem_cons, List.mem_map] at hc
    rcases hc with rfl | ⟨d, hd, rfl⟩
    · exact toUpper_alphanum (h first (by simp))
    · exact toLower_alphanum (h d (by simp [hd]))

/-! ## Identifiers -/

theorem identifierBy_alphanum (spell : List Char → List Char) (text : List Char) :
    ∀ c ∈ identifierBy spell text, c.isAlphanum := by
  have hall := humpsBy_alphanum spell text
  unfold identifierBy
  cases htext : humpsBy spell text with
  | nil => simp [camelCase]
  | cons first more =>
    rw [htext] at hall
    intro c hc
    simp only [camelCase, List.mem_append, List.mem_map, List.mem_flatMap] at hc
    rcases hc with ⟨d, hd, rfl⟩ | ⟨hump, hm, hc⟩
    · exact toLower_alphanum (hall first (by simp) d hd)
    · exact capitalized_alphanum (hall hump (by simp [hm])) c hc

/-- The first hump is small, and it is not empty. -/
theorem head_identifierBy {spell : List Char → List Char} {text : List Char} {c : Char}
    (h : (identifierBy spell text).head? = some c) : c.isLower ∨ c.isDigit := by
  have halnum : c.isAlphanum := identifierBy_alphanum spell text c (List.mem_of_mem_head? h)
  have hne := humpsBy_ne_nil spell text
  have hupper : c.isUpper = false := by
    unfold identifierBy at h
    cases htext : humpsBy spell text with
    | nil => rw [htext] at h; simp [camelCase] at h
    | cons first more =>
      rw [htext] at h hne
      cases first with
      | nil => exact absurd rfl (hne [] (by simp))
      | cons d rest =>
        simp only [camelCase, List.map_cons, List.cons_append, List.head?_cons,
          Option.some.injEq] at h
        rw [← h]; exact Char.isUpper_toLower_eq_false d
  simp only [Char.isAlphanum, Char.isAlpha, hupper, Bool.false_or, Bool.or_eq_true] at halnum
  exact halnum

/-! ## Names -/

/-- The characters of names. -/
def NameChar (c : Char) : Prop := c.isAlphanum ∨ c = '_'

/-- A letter or an underscore followed by characters of names. -/
theorem isPlain_of_chars {name : List Char} {c : Char} (hhead : name.head? = some c)
    (hc : c.isAlpha ∨ c = '_') (h : ∀ d ∈ name, NameChar d) : isPlain name := by
  obtain ⟨rest, rfl⟩ := List.head?_eq_some_iff.mp hhead
  simp only [isPlain, Bool.and_eq_true, List.all_eq_true]
  constructor
  · rcases hc with hc | rfl
    · simp [startsIdentifier, hc]
    · decide
  · intro d hd
    rcases h d (List.mem_cons_of_mem _ hd) with hd | rfl
    · simp [continuesIdentifier, hd]
    · decide

/-- A small letter or an underscore, then letters and digits, and at the end perhaps an
underscore. -/
def Shaped (name : List Char) : Prop :=
  ∃ first middle last, name = first :: (middle ++ last) ∧ (first.isLower ∨ first = '_') ∧
    (∀ c ∈ middle, c.isAlphanum) ∧ (last = [] ∨ last = ['_'])

theorem Shaped.chars {name : List Char} (h : Shaped name) : ∀ c ∈ name, NameChar c := by
  obtain ⟨first, middle, last, rfl, hfirst, hmiddle, hlast⟩ := h
  intro c hc
  rcases List.mem_cons.mp hc with rfl | hc
  · exact hfirst.imp_left fun hlower => by simp [Char.isAlphanum, Char.isAlpha, hlower]
  rcases List.mem_append.mp hc with hc | hc
  · exact .inl (hmiddle c hc)
  · rcases hlast with rfl | rfl
    · cases hc
    · exact .inr (List.mem_singleton.mp hc)

theorem Shaped.isPlain {name : List Char} (h : Shaped name) : isPlain name := by
  have hchars := h.chars
  obtain ⟨first, middle, last, rfl, hfirst, -⟩ := h
  exact isPlain_of_chars rfl (hfirst.imp_left fun hlower => by simp [Char.isAlpha, hlower]) hchars

/-- Letters and digits without a capital first, once a digit at the front is guarded. -/
theorem guardDigit_eq_cons {text : List Char} (hne : text ≠ [])
    (hall : ∀ c ∈ text, c.isAlphanum) (hhead : ∀ c, text.head? = some c → c.isLower ∨ c.isDigit) :
    ∃ first rest, guardDigit text = first :: rest ∧ (first.isLower ∨ first = '_') ∧
      ∀ c ∈ rest, c.isAlphanum := by
  cases text with
  | nil => exact absurd rfl hne
  | cons c rest =>
    rw [guardDigit]
    split
    · exact ⟨'_', c :: rest, rfl, .inr rfl, hall⟩
    · rename_i hdigit
      exact ⟨c, rest, rfl, .inl ((hhead c rfl).resolve_right hdigit),
        fun d hd => hall d (List.mem_cons_of_mem _ hd)⟩

/-- No reserved word is another one with an underscore after it. -/
theorem push_notMem_reservedWords : ∀ word ∈ reservedWords, word.push '_' ∉ reservedWords := by
  decide +kernel

theorem guardReserved_notMem_reservedWords (name : String) :
    guardReserved name ∉ reservedWords := by
  unfold guardReserved
  split
  · exact push_notMem_reservedWords _ ‹_›
  · assumption

/-- A name is the guarded identifier, with an underscore at the end if that is a reserved word. -/
theorem functionNameBy_toList (spell : List Char → List Char) (segment : String) :
    ∃ last, (functionNameBy spell segment).toList =
        guardDigit (identifierBy spell segment.toList) ++ last ∧ (last = [] ∨ last = ['_']) := by
  unfold functionNameBy guardReserved
  split
  · exact ⟨['_'], by rw [String.toList_push, String.toList_ofList], .inr rfl⟩
  · exact ⟨[], by rw [String.toList_ofList, List.append_nil], .inl rfl⟩

section

variable {spell : List Char → List Char} {segment : String}

/-- A name is empty exactly if the identifier is. -/
theorem functionNameBy_eq_empty_iff :
    functionNameBy spell segment = "" ↔ identifierBy spell segment.toList = [] := by
  constructor
  · intro hempty
    obtain ⟨last, hlast, -⟩ := functionNameBy_toList spell segment
    rw [hempty, String.toList_empty, eq_comm, List.append_eq_nil_iff] at hlast
    cases hid : identifierBy spell segment.toList with
    | nil => rfl
    | cons first rest =>
      have hguard := hlast.1
      rw [hid, guardDigit] at hguard
      split at hguard <;> cases hguard
  · intro hid
    unfold functionNameBy
    rw [hid]
    decide +kernel

theorem shaped_functionNameBy (h : functionNameBy spell segment ≠ "") :
    Shaped (functionNameBy spell segment).toList := by
  have hne : identifierBy spell segment.toList ≠ [] :=
    fun e => h (functionNameBy_eq_empty_iff.mpr e)
  obtain ⟨first, rest, hguard, hfirst, hrest⟩ := guardDigit_eq_cons hne
    (identifierBy_alphanum spell _) fun c => head_identifierBy
  obtain ⟨last, hlast, hend⟩ := functionNameBy_toList spell segment
  rw [hguard, List.cons_append] at hlast
  exact ⟨first, rest, last, hlast, hfirst, hrest, hend⟩

/-- A name starts with a small letter or an underscore, whatever it is made from. -/
theorem head_functionNameBy {c : Char} (h : (functionNameBy spell segment).toList.head? = some c) :
    c.isLower ∨ c = '_' := by
  have hne : functionNameBy spell segment ≠ "" := fun e => by rw [e] at h; cases h
  obtain ⟨first, middle, last, hname, hfirst, -⟩ := shaped_functionNameBy hne
  rw [hname, List.head?_cons, Option.some_inj] at h
  rwa [← h]

end

theorem functionNameBy_chars (spell : List Char → List Char) (segment : String) :
    ∀ c ∈ (functionNameBy spell segment).toList, NameChar c := by
  by_cases h : functionNameBy spell segment = ""
  · rw [h]
    simp
  · exact (shaped_functionNameBy h).chars

theorem functionNameBy_notMem_reservedWords (spell : List Char → List Char) (segment : String) :
    functionNameBy spell segment ∉ reservedWords :=
  guardReserved_notMem_reservedWords _

end OpenApiClient.Naming
