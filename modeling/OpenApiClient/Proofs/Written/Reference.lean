import OpenApiClient.Proofs.Text.Replacement
import OpenApiClient.Written.Reference

/-!
# Names in references

In a reference the slashes and tildes of a name are escaped. Two replacements undo this, one after
the other: first each `~1` becomes a slash, then each `~0` a tilde. On every text they do what one
reader does that goes through it once. The first leaves alone what the second looks for, and it
makes none of it: what it writes is a slash, which begins no escape and ends none.

Results:
* `decodeReferenceName_eq`: the two replacements as one reader.
* `readEscapes_encode`, `encode_readEscapes`: the reader undoes the escapes, and they undo it where
  every tilde begins an escape.
* `schemaOfReference_iff_referenceTo`: a reference without stray tildes names a schema exactly if it
  is the reference to that schema.
-/
namespace OpenApiClient

/-! ## Escapes -/

/-- A name as it stands in a reference. -/
def encodeReferenceName : List Char → List Char
  | '~' :: rest => '~' :: '0' :: encodeReferenceName rest
  | '/' :: rest => '~' :: '1' :: encodeReferenceName rest
  | c :: rest => c :: encodeReferenceName rest
  | [] => []

/-- The reference to the schema of a name. -/
def referenceTo (name : String) : String :=
  schemaReferenceStart ++ String.ofList (encodeReferenceName name.toList)

/-- Behind every tilde stands the zero or the one of an escape. -/
def TildesEscaped (text : List Char) : Prop :=
  ∀ front back, text = front ++ '~' :: back → ['0'] <+: back ∨ ['1'] <+: back

/-- Reads the escapes of a text from left to right and keeps everything else. -/
def readEscapes : List Char → List Char
  | '~' :: '0' :: rest => '~' :: readEscapes rest
  | '~' :: '1' :: rest => '/' :: readEscapes rest
  | c :: rest => c :: readEscapes rest
  | [] => []

theorem tildesEscaped_nil : TildesEscaped [] := by
  intro front back h
  simp at h

theorem tildesEscaped_cons {c : Char} {text : List Char} :
    TildesEscaped (c :: text) ↔
      (c = '~' → ['0'] <+: text ∨ ['1'] <+: text) ∧ TildesEscaped text := by
  constructor
  · intro h
    refine ⟨fun hc => h [] text (by rw [hc, List.nil_append]), fun front back htext => ?_⟩
    exact h (c :: front) back (by rw [htext, List.cons_append])
  · rintro ⟨hc, htext⟩ front back h
    cases front with
    | nil =>
      obtain ⟨rfl, rfl⟩ := List.cons.inj h
      exact hc rfl
    | cons d front =>
      obtain ⟨-, hrest⟩ := List.cons.inj h
      exact htext front back hrest

theorem tildesEscaped_append_of_notMem {front text : List Char} (h : '~' ∉ front) :
    TildesEscaped (front ++ text) ↔ TildesEscaped text := by
  induction front with
  | nil => rfl
  | cons c front ih =>
    rw [List.mem_cons, not_or] at h
    rw [List.cons_append, tildesEscaped_cons, ih h.2]
    exact and_iff_right fun hc => absurd hc.symm h.1

/-! ## One reader -/

/-- The first replacement brings no zero to the front: it writes slashes only. -/
theorem zero_prefix_replaceAll (text : List Char) :
    ['0'] <+: Text.replaceAll '~' ['1'] ['/'] text ↔ ['0'] <+: text := by
  cases text with
  | nil => rfl
  | cons c rest =>
    by_cases hc : c = '~'
    · subst hc
      by_cases hone : ['1'] <+: rest
      · obtain ⟨rest, rfl⟩ := hone
        rw [Text.replaceAll_match]
        simp
      · rw [Text.replaceAll_noMatch hone]
        simp
    · rw [Text.replaceAll_cons_ne hc]
      simp

theorem decodeReferenceName_zero (rest : List Char) :
    decodeReferenceName ('~' :: '0' :: rest) = '~' :: decodeReferenceName rest := by
  unfold decodeReferenceName
  rw [Text.replaceAll_noMatch (by simp),
    Text.replaceAll_cons_ne (show '0' ≠ '~' by decide)]
  exact Text.replaceAll_match '~' ['0'] ['~'] _

theorem decodeReferenceName_one (rest : List Char) :
    decodeReferenceName ('~' :: '1' :: rest) = '/' :: decodeReferenceName rest := by
  unfold decodeReferenceName
  have hmatch := Text.replaceAll_match '~' ['1'] ['/'] rest
  rw [List.singleton_append, List.singleton_append] at hmatch
  rw [hmatch, Text.replaceAll_cons_ne (by decide)]

theorem decodeReferenceName_cons {c : Char} {rest : List Char}
    (h : c = '~' → ¬ ['0'] <+: rest ∧ ¬ ['1'] <+: rest) :
    decodeReferenceName (c :: rest) = c :: decodeReferenceName rest := by
  unfold decodeReferenceName
  by_cases hc : c = '~'
  · subst hc
    obtain ⟨hzero, hone⟩ := h rfl
    rw [Text.replaceAll_noMatch hone,
      Text.replaceAll_noMatch (mt (zero_prefix_replaceAll rest).mp hzero)]
  · rw [Text.replaceAll_cons_ne hc, Text.replaceAll_cons_ne hc]

/-- The two replacements read every text as one reader does. -/
theorem decodeReferenceName_eq (text : List Char) :
    decodeReferenceName text = readEscapes text := by
  fun_induction readEscapes text with
  | case1 rest ih => rw [decodeReferenceName_zero, ih]
  | case2 rest ih => rw [decodeReferenceName_one, ih]
  | case3 c rest hzero hone ih =>
    rw [decodeReferenceName_cons, ih]
    intro hc
    constructor
    · rintro ⟨back, rfl⟩
      exact hzero back hc rfl
    · rintro ⟨back, rfl⟩
      exact hone back hc rfl
  | case4 => rfl

/-! ## Both ways -/

theorem tildesEscaped_encode (name : List Char) : TildesEscaped (encodeReferenceName name) := by
  fun_induction encodeReferenceName name with
  | case1 rest ih => simpa [tildesEscaped_cons] using ih
  | case2 rest ih => simpa [tildesEscaped_cons] using ih
  | case3 c rest htilde hslash ih => exact tildesEscaped_cons.mpr ⟨fun hc => (htilde hc).elim, ih⟩
  | case4 => exact tildesEscaped_nil

theorem slash_notMem_encode (name : List Char) : '/' ∉ encodeReferenceName name := by
  fun_induction encodeReferenceName name with
  | case1 rest ih => simpa using ih
  | case2 rest ih => simpa using ih
  | case3 c rest htilde hslash ih =>
    rw [List.mem_cons, not_or]
    exact ⟨fun hc => hslash hc.symm, ih⟩
  | case4 => exact List.not_mem_nil

theorem encodeReferenceName_cons {c : Char} (htilde : c ≠ '~') (hslash : c ≠ '/')
    (rest : List Char) : encodeReferenceName (c :: rest) = c :: encodeReferenceName rest := by
  rw [encodeReferenceName]
  · exact htilde
  · exact hslash

theorem readEscapes_cons {c : Char} (h : c ≠ '~') (rest : List Char) :
    readEscapes (c :: rest) = c :: readEscapes rest := by
  rw [readEscapes]
  · exact fun _ hc => absurd hc h
  · exact fun _ hc => absurd hc h

theorem readEscapes_encode (name : List Char) :
    readEscapes (encodeReferenceName name) = name := by
  fun_induction encodeReferenceName name with
  | case1 rest ih => rw [readEscapes, ih]
  | case2 rest ih => rw [readEscapes, ih]
  | case3 c rest htilde hslash ih => rw [readEscapes_cons htilde, ih]
  | case4 => rfl

theorem encode_readEscapes {text : List Char} (hescaped : TildesEscaped text)
    (hslash : '/' ∉ text) : encodeReferenceName (readEscapes text) = text := by
  fun_induction readEscapes text with
  | case1 rest ih =>
    simp only [tildesEscaped_cons, List.mem_cons, not_or] at hescaped hslash
    exact congrArg ('~' :: '0' :: ·) (ih hescaped.2.2 hslash.2.2)
  | case2 rest ih =>
    simp only [tildesEscaped_cons, List.mem_cons, not_or] at hescaped hslash
    exact congrArg ('~' :: '1' :: ·) (ih hescaped.2.2 hslash.2.2)
  | case3 c rest hzero hone ih =>
    rw [tildesEscaped_cons] at hescaped
    rw [List.mem_cons, not_or] at hslash
    have htilde : c ≠ '~' := by
      intro hc
      rcases hescaped.1 hc with ⟨back, rfl⟩ | ⟨back, rfl⟩
      · exact hzero back hc rfl
      · exact hone back hc rfl
    rw [encodeReferenceName_cons htilde (Ne.symm hslash.1), ih hescaped.2 hslash.2]
  | case4 => rfl

/-! ## References -/

/-- A reference names a schema if a text without slashes follows its start. -/
theorem schemaOfReference_eq_some_iff {reference name : String} :
    schemaOfReference reference = some name ↔
      ∃ token, reference.toList = schemaReferenceStart.toList ++ token ∧ token ≠ [] ∧
        '/' ∉ token ∧ name = String.ofList (decodeReferenceName token) := by
  unfold schemaOfReference
  simp only [Option.ite_none_right_eq_some, Option.some.injEq, List.isPrefixOf_iff_prefix]
  constructor
  · rintro ⟨⟨⟨token, htoken⟩, hname⟩, rfl⟩
    rw [← htoken, List.drop_left] at hname ⊢
    exact ⟨token, rfl, hname.1, hname.2, rfl⟩
  · rintro ⟨token, htoken, hnil, hslash, rfl⟩
    rw [htoken, List.drop_left]
    exact ⟨⟨List.prefix_append _ _, hnil, hslash⟩, rfl⟩

theorem toList_referenceTo (name : String) :
    (referenceTo name).toList =
      schemaReferenceStart.toList ++ encodeReferenceName name.toList := by
  simp [referenceTo]

theorem tilde_notMem_schemaReferenceStart : '~' ∉ schemaReferenceStart.toList := by
  decide

/-- The reference to a schema whose name is not empty names that schema, and every tilde in it
begins an escape. Conversely, a reference in which every tilde begins an escape is the reference to
the schema that it names. -/
theorem schemaOfReference_iff_referenceTo (reference name : String) :
    schemaOfReference reference = some name ∧ TildesEscaped reference.toList ↔
      name ≠ "" ∧ reference = referenceTo name := by
  rw [schemaOfReference_eq_some_iff]
  constructor
  · rintro ⟨⟨token, htoken, hnil, hslash, rfl⟩, hescaped⟩
    rw [htoken, tildesEscaped_append_of_notMem tilde_notMem_schemaReferenceStart] at hescaped
    have htext := encode_readEscapes hescaped hslash
    rw [decodeReferenceName_eq]
    constructor
    · intro hname
      rw [String.ofList_eq_empty_iff.mp hname] at htext
      exact hnil htext.symm
    · apply String.toList_inj.mp
      rw [toList_referenceTo, htoken, String.toList_ofList, htext]
  · rintro ⟨hname, rfl⟩
    rw [toList_referenceTo,
      tildesEscaped_append_of_notMem tilde_notMem_schemaReferenceStart]
    have hread := readEscapes_encode name.toList
    refine ⟨⟨_, rfl, ?_, slash_notMem_encode name.toList, ?_⟩, tildesEscaped_encode name.toList⟩
    · intro hnil
      rw [hnil] at hread
      exact hname (String.toList_eq_nil_iff.mp hread.symm)
    · rw [decodeReferenceName_eq, hread, String.ofList_toList]

/-- A name that looks like an escape, between a tilde and a slash. -/
example : schemaOfReference (referenceTo "~~1/") = some "~~1/" := by decide +kernel

/-- A stray tilde is kept, and the reference to the name is another one. -/
example : schemaOfReference "#/components/schemas/a~b" = some "a~b" ∧
    referenceTo "a~b" = "#/components/schemas/a~0b" := by decide +kernel

end OpenApiClient
