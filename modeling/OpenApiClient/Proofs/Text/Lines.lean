import OpenApiClient.Text.Blank
import OpenApiClient.Text.Lines

/-!
# Lines of a text and lines joined to a text

Results:
* `infix_of_mem_lines`, `feed_notMem_of_mem_lines`: every line of a text stands in it as it is,
  and has no line feed.
* `joined_append_separator`, `joined_concat`: joined lines as lines with an end each.
* `mem_joined`: what joined lines are made of.
* `splitOnP_flatMap`, `splitOnP_flatMap_of_notMem`: lines with an end each are read back one by
  one.
-/
namespace OpenApiClient.Text

/-! ## Lines of a text -/

/-- The first line begins the text, and every line stands somewhere in it. -/
theorem lines_occur (text : List Char) :
    (∀ line ∈ (lines text).head?, line <+: text) ∧ ∀ line ∈ lines text, line <:+: text := by
  fun_induction lines text with
  | case1 => simp
  | case2 rest ih =>
    refine ⟨fun line hline => ?_, fun line hline => ?_⟩
    · obtain rfl := Option.some.inj hline
      exact List.nil_prefix
    · rcases List.mem_cons.mp hline with rfl | hline
      · exact List.nil_infix
      · exact List.infix_cons (ih.2 line hline)
  | case3 rest ih =>
    refine ⟨fun line hline => ?_, fun line hline => ?_⟩
    · obtain rfl := Option.some.inj hline
      exact List.nil_prefix
    · rcases List.mem_cons.mp hline with rfl | hline
      · exact List.nil_infix
      · exact List.infix_cons (List.infix_cons (ih.2 line hline))
  | case4 c rest _ _ hnil ih =>
    refine ⟨fun line hline => ?_, fun line hline => ?_⟩
    · obtain rfl := Option.some.inj hline
      exact ⟨rest, rfl⟩
    · obtain rfl := List.mem_singleton.mp hline
      exact ⟨[], rest, rfl⟩
  | case5 c rest _ _ first more hlines ih =>
    rw [hlines] at ih
    have hfirst : c :: first <+: c :: rest :=
      List.cons_prefix_cons.mpr ⟨rfl, ih.1 first rfl⟩
    refine ⟨fun line hline => ?_, fun line hline => ?_⟩
    · obtain rfl := Option.some.inj hline
      exact hfirst
    · rcases List.mem_cons.mp hline with rfl | hline
      · exact hfirst.isInfix
      · exact List.infix_cons (ih.2 line (List.mem_cons_of_mem _ hline))

theorem infix_of_mem_lines {text line : List Char} (h : line ∈ lines text) : line <:+: text :=
  (lines_occur text).2 line h

/-- No line of a text has a line feed. -/
theorem feed_notMem_of_mem_lines {text line : List Char} (h : line ∈ lines text) :
    '\n' ∉ line := by
  fun_induction lines text generalizing line with
  | case1 => cases h
  | case2 rest ih =>
    rcases List.mem_cons.mp h with rfl | h
    · exact List.not_mem_nil
    · exact ih h
  | case3 rest ih =>
    rcases List.mem_cons.mp h with rfl | h
    · exact List.not_mem_nil
    · exact ih h
  | case4 c rest hfeed _ _ ih =>
    obtain rfl := List.mem_singleton.mp h
    exact fun hc => hfeed (List.mem_singleton.mp hc).symm
  | case5 c rest hfeed _ first more hlines ih =>
    rw [hlines] at ih
    rcases List.mem_cons.mp h with rfl | h
    · rw [List.mem_cons, not_or]
      exact ⟨fun hc => hfeed hc.symm, ih List.mem_cons_self⟩
    · exact ih (List.mem_cons_of_mem _ h)

theorem trimEnd_isPrefix (text : List Char) : trimEnd text <+: text := by
  have hback := List.dropWhile_suffix (l := text.reverse) isBlank
  have hfront := List.reverse_prefix.mpr hback
  rwa [List.reverse_reverse] at hfront

/-! ## Joined lines -/

/-- Behind joined lines the separator ends the last one. -/
theorem joined_append_separator (separator : List Char) {lines : List (List Char)}
    (h : lines ≠ []) : joined separator lines ++ separator = lines.flatMap (· ++ separator) := by
  induction lines with
  | nil => exact absurd rfl h
  | cons line more ih =>
    cases more with
    | nil => simp [joined]
    | cons next more =>
      rw [joined, List.append_assoc, ih (List.cons_ne_nil _ _)]
      rfl

theorem joined_concat (separator : List Char) {lines : List (List Char)} (h : lines ≠ [])
    (last : List Char) :
    joined separator (lines ++ [last]) = joined separator lines ++ separator ++ last := by
  induction lines with
  | nil => exact absurd rfl h
  | cons line more ih =>
    cases more with
    | nil => rfl
    | cons next more =>
      have hmore := ih (List.cons_ne_nil next more)
      simp only [List.cons_append, joined, List.append_assoc] at hmore ⊢
      rw [hmore]

/-- Joined lines are made of their characters and of those of the separator. -/
theorem mem_joined {separator : List Char} {lines : List (List Char)} {c : Char}
    (h : c ∈ joined separator lines) : c ∈ separator ∨ ∃ line ∈ lines, c ∈ line := by
  induction lines with
  | nil => cases h
  | cons line more ih =>
    cases more with
    | nil => exact .inr ⟨line, List.mem_singleton_self line, h⟩
    | cons next more =>
      simp only [joined, List.mem_append] at h
      rcases h with (h | h) | h
      · exact .inr ⟨line, List.mem_cons_self, h⟩
      · exact .inl h
      · rcases ih h with h | ⟨other, hother, h⟩
        · exact .inl h
        · exact .inr ⟨other, List.mem_cons_of_mem _ hother, h⟩

theorem mem_joined_of_mem (separator : List Char) {lines : List (List Char)} {line : List Char}
    (hline : line ∈ lines) {c : Char} (hc : c ∈ line) : c ∈ joined separator lines := by
  induction lines with
  | nil => cases hline
  | cons first more ih =>
    cases more with
    | nil => rw [List.mem_singleton] at hline; subst hline; exact hc
    | cons next more =>
      simp only [joined, List.mem_append]
      rcases List.mem_cons.mp hline with rfl | hline
      · exact .inl (.inl hc)
      · exact .inr (ih hline)

/-! ## Lines cut at their ends -/

/-- Lines with an end each are read back one by one. -/
theorem splitOnP_flatMap {isEnd : Char → Bool} {feed : Char} (hfeed : isEnd feed = true)
    {lines : List (List Char)} (h : ∀ line ∈ lines, ∀ c ∈ line, isEnd c = false)
    (rest : List Char) :
    (lines.flatMap (· ++ [feed]) ++ rest).splitOnP isEnd = lines ++ rest.splitOnP isEnd := by
  induction lines with
  | nil => rfl
  | cons line more ih =>
    rw [List.forall_mem_cons] at h
    rw [List.flatMap_cons, List.append_assoc, List.append_assoc, List.singleton_append,
      List.splitOnP_append_cons_of_forall_mem h.1 feed hfeed, ih h.2, List.cons_append]

section

variable {separator : Char}

/-- Pieces with a separator behind each are read back if none of them has it. -/
theorem splitOnP_flatMap_of_notMem {pieces : List (List Char)}
    (h : ∀ piece ∈ pieces, separator ∉ piece) (rest : List Char) :
    (pieces.flatMap (· ++ [separator]) ++ rest).splitOnP (· = separator) =
      pieces ++ rest.splitOnP (· = separator) := by
  refine splitOnP_flatMap (decide_eq_true rfl) (fun piece hpiece c hc => ?_) rest
  refine decide_eq_false ?_
  rintro rfl
  exact h piece hpiece hc

/-- What has no separator stands in front of the first piece, and leaves the others as they are. -/
theorem splitOnP_append_of_notMem {front : List Char} (h : separator ∉ front) (rest : List Char) :
    ∃ first others, (front ++ rest).splitOnP (· = separator) = (front ++ first) :: others := by
  induction front with
  | nil => exact List.exists_cons_of_ne_nil (List.splitOnP_ne_nil _ rest)
  | cons c more ih =>
    rw [List.mem_cons, not_or] at h
    obtain ⟨first, others, hsplit⟩ := ih h.2
    refine ⟨first, others, ?_⟩
    rw [List.cons_append, List.splitOnP_cons_eq_if_modifyHead, decide_eq_false (Ne.symm h.1),
      hsplit]
    rfl

end

/-- No piece of a text that is cut at some characters has one of them. -/
theorem isEnd_of_mem_splitOnP {isEnd : Char → Bool} {text piece : List Char}
    (h : piece ∈ text.splitOnP isEnd) : ∀ c ∈ piece, isEnd c = false := by
  induction text generalizing piece with
  | nil =>
    rw [List.splitOnP_nil, List.mem_singleton] at h
    subst h
    simp
  | cons d rest ih =>
    rw [List.splitOnP_cons_eq_if_modifyHead] at h
    split at h
    · rcases List.mem_cons.mp h with rfl | h
      · simp
      · exact ih h
    · rename_i hd
      cases hpieces : rest.splitOnP isEnd with
      | nil => exact absurd hpieces (List.splitOnP_ne_nil _ _)
      | cons first more =>
        rw [hpieces, List.modifyHead_cons] at h
        rcases List.mem_cons.mp h with rfl | h
        · rw [List.forall_mem_cons]
          exact ⟨by simpa using hd, ih (by rw [hpieces]; exact List.mem_cons_self)⟩
        · exact ih (by rw [hpieces]; exact List.mem_cons_of_mem _ h)

end OpenApiClient.Text
