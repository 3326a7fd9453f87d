import OpenApiClient.Proofs.Text.Replacement

/-!
# One line end for all

`unifyLineEnds` replaces twice: first every pair of a carriage return and a line feed, then every
carriage return that is left. Proofs read it as one scan from left to right.

Results:
* `unifyLineEnds_pair`, `unifyLineEnds_return`, `unifyLineEnds_cons_ne`: one step of that scan.
* `unifyLineEnds_append`: text without carriage returns is kept as it is.
* `unifyLineEnds_append_back`: what does not begin with a line feed is scanned by itself.
* `unifyLineEnds_feed`: what stands before a line feed is scanned by itself with the line feed.
* `head_unifyLineEnds`: the first character stays, unless it is a carriage return.
-/
namespace OpenApiClient.Text

@[simp]
theorem unifyLineEnds_nil : unifyLineEnds [] = [] := rfl

/-- A character that is no carriage return is kept. -/
theorem unifyLineEnds_cons_ne {c : Char} (h : c ≠ '\r') (rest : List Char) :
    unifyLineEnds (c :: rest) = c :: unifyLineEnds rest := by
  unfold unifyLineEnds
  rw [replaceAll_cons_ne h, replaceAll_cons_ne h]

/-- A carriage return and a line feed are one line end. -/
theorem unifyLineEnds_pair (rest : List Char) :
    unifyLineEnds ('\r' :: '\n' :: rest) = '\n' :: unifyLineEnds rest := by
  unfold unifyLineEnds
  have hpair := replaceAll_match '\r' ['\n'] ['\n'] rest
  rw [List.singleton_append, List.singleton_append] at hpair
  rw [hpair, replaceAll_cons_ne (by decide)]

/-- A carriage return without a line feed is a line end too. -/
theorem unifyLineEnds_return {rest : List Char} (h : rest.head? ≠ some '\n') :
    unifyLineEnds ('\r' :: rest) = '\n' :: unifyLineEnds rest := by
  have halone : ¬ ['\n'] <+: rest := by
    intro hfeed
    obtain ⟨more, rfl⟩ := hfeed
    exact h rfl
  unfold unifyLineEnds
  rw [replaceAll_noMatch halone]
  exact replaceAll_match '\r' [] ['\n'] _

/-- The first character stays, unless it is a carriage return. -/
theorem head_unifyLineEnds (text : List Char) :
    (unifyLineEnds text).head? = text.head?.map fun c => if c = '\r' then '\n' else c := by
  cases text with
  | nil => rfl
  | cons c rest =>
    by_cases hc : c = '\r'
    · subst hc
      by_cases hfeed : rest.head? = some '\n'
      · obtain ⟨more, rfl⟩ := List.head?_eq_some_iff.mp hfeed
        rw [unifyLineEnds_pair]; rfl
      · rw [unifyLineEnds_return hfeed]; rfl
    · rw [unifyLineEnds_cons_ne hc, List.head?_cons, List.head?_cons, Option.map_some, if_neg hc]

/-- Text without carriage returns is kept as it is. -/
theorem unifyLineEnds_append {front : List Char} (h : '\r' ∉ front) (rest : List Char) :
    unifyLineEnds (front ++ rest) = front ++ unifyLineEnds rest := by
  unfold unifyLineEnds
  rw [replaceAll_append_of_notMem h, replaceAll_append_of_notMem h]

/-- What does not begin with a line feed is scanned by itself. -/
theorem unifyLineEnds_append_back {back : List Char} (h : back.head? ≠ some '\n') :
    ∀ front, unifyLineEnds (front ++ back) = unifyLineEnds front ++ unifyLineEnds back
  | [] => rfl
  | c :: rest => by
    have hrest := unifyLineEnds_append_back h rest
    rw [List.cons_append]
    by_cases hc : c = '\r'
    · subst hc
      by_cases hfeed : rest.head? = some '\n'
      · -- the pair is one step, so that the scan goes on behind both characters
        obtain ⟨more, rfl⟩ := List.head?_eq_some_iff.mp hfeed
        have hmore := unifyLineEnds_append_back h more
        rw [List.cons_append, unifyLineEnds_pair, unifyLineEnds_pair, hmore, List.cons_append]
      · have hnone : (rest ++ back).head? ≠ some '\n' := by
          cases rest with
          | nil => exact h
          | cons d more => exact hfeed
        rw [unifyLineEnds_return hnone, unifyLineEnds_return hfeed, hrest, List.cons_append]
    · rw [unifyLineEnds_cons_ne hc, unifyLineEnds_cons_ne hc, hrest, List.cons_append]

/-- Up to a line feed a text is scanned by itself, and the line feed stays: a carriage return
before it is part of the same line end. -/
theorem unifyLineEnds_feed :
    ∀ front, ∃ shown, ∀ back, unifyLineEnds (front ++ '\n' :: back) =
      shown ++ '\n' :: unifyLineEnds back
  | [] => ⟨[], fun back => unifyLineEnds_cons_ne (by decide) back⟩
  | c :: rest => by
    obtain ⟨shown, hshown⟩ := unifyLineEnds_feed rest
    by_cases hc : c = '\r'
    · subst hc
      cases rest with
      | nil => exact ⟨[], fun back => unifyLineEnds_pair back⟩
      | cons d more =>
        by_cases hd : d = '\n'
        · subst hd
          obtain ⟨shown, hshown⟩ := unifyLineEnds_feed more
          refine ⟨'\n' :: shown, fun back => ?_⟩
          rw [List.cons_append, List.cons_append, unifyLineEnds_pair, hshown, List.cons_append]
        · refine ⟨'\n' :: shown, fun back => ?_⟩
          have hnone : (d :: more ++ '\n' :: back).head? ≠ some '\n' := by simpa using hd
          rw [List.cons_append, unifyLineEnds_return hnone, hshown, List.cons_append]
    · refine ⟨c :: shown, fun back => ?_⟩
      rw [List.cons_append, unifyLineEnds_cons_ne hc, hshown, List.cons_append]

end OpenApiClient.Text
