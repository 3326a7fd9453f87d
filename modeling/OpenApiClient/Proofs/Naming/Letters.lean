import OpenApiClient.Proofs.Naming.Identifier
import OpenApiClient.Text.Latin

/-!
# What a name keeps of its text

The spelling of a text is cut into words, the words into humps, and the humps are put together
again in another letter case. No letter and no digit is lost on the way, none comes twice and none
is new; only letter case and what stands between the words is gone.

Everything here holds for any spelling in ASCII; `Text.latin` stands for one in examples.

Results:
* `flatten_words`: the words of a text are its letters and digits.
* `map_toLower_camelCase`: camel case changes letter case only.
* `identifierBy_keeps_letters`: an identifier has the letters and digits of the spelling.
* `functionNameBy_valid`: a name is empty if there are none, and a name of the language if not.
-/
namespace OpenApiClient.Naming

/-- The letters and digits of a text, without regard to letter case. -/
def letters (text : List Char) : List Char := (text.filter Char.isAlphanum).map Char.toLower

/-! ## From a text to humps and back -/

/-- The words of a text are its letters and digits. -/
theorem flatten_words (text : List Char) : (words text).flatten = text.filter Char.isAlphanum := by
  fun_induction words text with
  | case1 => rfl
  | case2 c hc => simp [hc]
  | case3 c hc next more _ ih => rw [attach_flatten, ih, List.filter_cons_of_pos hc]
  | case4 c hc next more _ ih =>
    rw [List.flatten_cons, ih, List.filter_cons_of_pos hc, List.singleton_append]
  | case5 c rest hc ih => rw [ih, List.filter_cons_of_neg hc]

theorem flatten_flatMap_humps (words : List (List Char)) :
    (words.flatMap humps).flatten = words.flatten := by
  induction words with
  | nil => rfl
  | cons word rest ih =>
    rw [List.flatMap_cons, List.flatten_append, humps_flatten, ih, List.flatten_cons]

/-- An apostrophe is left out before the text is cut, and would be left out by the cut too. -/
theorem flatten_humpsBy (spell : List Char → List Char) (text : List Char) :
    (humpsBy spell text).flatten = (spell text).filter Char.isAlphanum := by
  rw [humpsBy, flatten_flatMap_humps, flatten_words, List.filter_filter]
  refine List.filter_congr fun c _ => ?_
  by_cases hc : c = '\x27'
  · subst hc; rfl
  · simp [hc]

theorem map_toLower_capitalized (hump : List Char) :
    (capitalized hump).map Char.toLower = hump.map Char.toLower := by
  cases hump with
  | nil => rfl
  | cons first rest => simp [capitalized]

/-- Camel case changes letter case only. -/
theorem map_toLower_camelCase (humps : List (List Char)) :
    (camelCase humps).map Char.toLower = humps.flatten.map Char.toLower := by
  cases humps with
  | nil => rfl
  | cons first more =>
    have hmore : (more.flatMap capitalized).map Char.toLower = more.flatten.map Char.toLower := by
      rw [List.map_flatMap, List.map_flatten, List.flatMap_def]
      simp only [map_toLower_capitalized]
    rw [camelCase, List.map_append, hmore, List.flatten_cons, List.map_append]
    simp

/-! ## Identifiers -/

section

variable (spell : List Char → List Char)

theorem map_toLower_identifierBy (text : List Char) :
    (identifierBy spell text).map Char.toLower = letters (spell text) := by
  rw [identifierBy, map_toLower_camelCase, flatten_humpsBy, letters]

/-- An identifier is empty exactly if the spelling has no letter and no digit. -/
theorem identifierBy_eq_nil_iff (text : List Char) :
    identifierBy spell text = [] ↔ ∀ c ∈ spell text, ¬ c.isAlphanum := by
  have hletters : letters (spell text) = [] ↔ ∀ c ∈ spell text, ¬ c.isAlphanum := by
    rw [letters, List.map_eq_nil_iff, List.filter_eq_nil_iff]
  rw [← hletters, ← map_toLower_identifierBy, List.map_eq_nil_iff]

/-- The underscores that guard a name are no letters. -/
theorem filter_functionNameBy (segment : String) :
    (functionNameBy spell segment).toList.filter Char.isAlphanum =
      identifierBy spell segment.toList := by
  have hall := identifierBy_alphanum spell segment.toList
  obtain ⟨last, hname, hlast⟩ := functionNameBy_toList spell segment
  have hnone : last.filter Char.isAlphanum = [] := by
    rcases hlast with rfl | rfl <;> rfl
  have hguard : ∀ text : List Char,
      (guardDigit text).filter Char.isAlphanum = text.filter Char.isAlphanum := by
    intro text
    cases text with
    | nil => rfl
    | cons first rest =>
      rw [guardDigit]
      split
      · exact List.filter_cons_of_neg (by decide)
      · rfl
  rw [hname, List.filter_append, hnone, List.append_nil, hguard, List.filter_eq_self.mpr hall]

/-- An identifier has the letters and digits of the spelling of its text, in their order and
without regard to letter case, and no others. Texts that get the same identifier, and segments
that get the same name, therefore have the same letters and digits. -/
theorem identifierBy_keeps_letters :
    (∀ text, (identifierBy spell text).map Char.toLower = letters (spell text)) ∧
      (∀ first second, identifierBy spell first = identifierBy spell second →
        letters (spell first) = letters (spell second)) ∧
      ∀ first second : String, functionNameBy spell first = functionNameBy spell second →
        letters (spell first.toList) = letters (spell second.toList) := by
  have hkept := map_toLower_identifierBy spell
  have hsame : ∀ first second, identifierBy spell first = identifierBy spell second →
      letters (spell first) = letters (spell second) := by
    intro first second h
    rw [← hkept, ← hkept, h]
  refine ⟨hkept, hsame, fun first second h => hsame _ _ ?_⟩
  rw [← filter_functionNameBy, ← filter_functionNameBy, h]

end

theorem identifierBy_keeps_letters_cafe :
    identifierBy Text.latin "café au-lait".toList =
        identifierBy Text.latin "Cafe AU lait!".toList ∧
      letters (Text.latin "café au-lait".toList) = letters (Text.latin "Cafe AU lait!".toList) ∧
      functionNameBy Text.latin "new" = functionNameBy Text.latin "N'EW" ∧
      letters (Text.latin "new".toList) = letters (Text.latin "N'EW".toList) := by
  have hidentifier : identifierBy Text.latin "café au-lait".toList =
      identifierBy Text.latin "Cafe AU lait!".toList := by decide +kernel
  have hname : functionNameBy Text.latin "new" = functionNameBy Text.latin "N'EW" := by
    decide +kernel
  obtain ⟨-, hidentifiers, hnames⟩ := identifierBy_keeps_letters Text.latin
  exact ⟨hidentifier, hidentifiers _ _ hidentifier, hname, hnames _ _ hname⟩

/-! ## Names -/

/-- A name that the language allows, as it is made: the form of its characters, and no reserved
word. -/
structure IsName (name : String) : Prop where
  shaped : Shaped name.toList
  plain : isPlain name.toList
  unreserved : name ∉ reservedWords

/-- A name is empty exactly if the spelling of its segment has no letter and no digit, and
otherwise a name that the language allows. -/
theorem functionNameBy_valid (spell : List Char → List Char) (segment : String) :
    (functionNameBy spell segment = "" ↔ ∀ c ∈ spell segment.toList, ¬ c.isAlphanum) ∧
      (functionNameBy spell segment ≠ "" → IsName (functionNameBy spell segment)) := by
  constructor
  · exact functionNameBy_eq_empty_iff.trans (identifierBy_eq_nil_iff spell _)
  · intro hne
    have hshaped := shaped_functionNameBy hne
    exact ⟨hshaped, hshaped.isPlain, functionNameBy_notMem_reservedWords spell segment⟩

theorem functionNameBy_valid_half :
    functionNameBy Text.latin "½" ≠ "" ∧ IsName (functionNameBy Text.latin "½") ∧
      functionNameBy Text.latin "½" = "_12" := by
  have hne : functionNameBy Text.latin "½" ≠ "" := by decide +kernel
  exact ⟨hne, (functionNameBy_valid Text.latin "½").2 hne, by decide +kernel⟩

end OpenApiClient.Naming
