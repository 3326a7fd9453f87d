import OpenApiClient.Text.Replacement

/-!
# How a replacement reads its text

`replaceAll` goes from left to right: what is no occurrence is kept, an occurrence is replaced
and left behind. Proofs about it take one of these steps at a time.

Results:
* `replaceAll_cons_ne`, `replaceAll_append_of_notMem`: text without the first character is kept.
* `replaceAll_match`, `replaceAll_noMatch`: what happens at the first character.
* `replaceAll_char`: replacing one character is done character by character.
-/
namespace OpenApiClient.Text

theorem replaceFrom_skip (first : Char) (more new : List Char) (skip : Nat) (text : List Char) :
    replaceFrom first more new skip text = replaceAll first more new (text.drop skip) := by
  induction text generalizing skip with
  | nil => cases skip <;> rfl
  | cons c rest ih =>
    cases skip with
    | zero => rfl
    | succ skip => simp only [replaceFrom, List.drop_succ_cons]; exact ih skip

@[simp]
theorem replaceAll_nil (first : Char) (more new : List Char) :
    replaceAll first more new [] = [] := rfl

theorem replaceAll_cons_ne {first c : Char} (h : c ≠ first) (more new rest : List Char) :
    replaceAll first more new (c :: rest) = c :: replaceAll first more new rest := by
  simp only [replaceAll, replaceFrom]
  rw [if_neg (fun hc => h hc.1)]

theorem replaceAll_append_of_notMem {first : Char} {front : List Char} (h : first ∉ front)
    (more new rest : List Char) :
    replaceAll first more new (front ++ rest) = front ++ replaceAll first more new rest := by
  induction front with
  | nil => rfl
  | cons c front ih =>
    simp only [List.mem_cons, not_or] at h
    rw [List.cons_append, replaceAll_cons_ne (Ne.symm h.1), ih h.2, List.cons_append]

/-- An occurrence is replaced, and the search goes on behind it. -/
theorem replaceAll_match (first : Char) (more new rest : List Char) :
    replaceAll first more new (first :: (more ++ rest)) =
      new ++ replaceAll first more new rest := by
  rw [replaceAll, replaceFrom, if_pos ⟨rfl, by simp⟩, replaceFrom_skip, List.drop_left]

theorem replaceAll_noMatch {first : Char} {more rest : List Char} (h : ¬ more <+: rest)
    (new : List Char) :
    replaceAll first more new (first :: rest) = first :: replaceAll first more new rest := by
  rw [replaceAll, replaceFrom, if_neg fun hm => h (List.isPrefixOf_iff_prefix.mp hm.2)]
  rfl

theorem replaceAll_char (c : Char) (new text : List Char) :
    replaceAll c [] new text = text.flatMap fun d => if d = c then new else [d] := by
  induction text with
  | nil => rfl
  | cons d rest ih =>
    by_cases h : d = c
    · subst h
      rw [List.flatMap_cons, if_pos rfl, ← ih]
      exact replaceAll_match d [] new rest
    · rw [replaceAll_cons_ne h, List.flatMap_cons, if_neg h, ih]; rfl

end OpenApiClient.Text
