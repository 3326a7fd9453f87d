import OpenApiClient.Proofs.Naming.Identifier

/-!
# Where humps start

The humps of a word are found in one pass, which remembers the character before and how many
capitals in a row end with it. What the pass decides for a character can be said of the word as it
stands: of the characters around a position, and of the run of capitals that ends there.

Results:
* `cutAt_attach`, `cutAt_nil_cons`: how the places of the cuts move as a text grows to the left.
* `capitalsAtEnd_append`: the pass counts the capitals at the end of what it has read.
* `startsHump_iff`: what the pass decides for one character.
* `cutAt_humpsAfter`: the cuts in what follows any beginning of a word.
* `humps_start_iff`: humps cut a word at the positions where letter case or digits change, and
  nowhere else.
-/
namespace OpenApiClient.Naming

/-! ## Cuts -/

/-- A text in pieces is cut at a position: some pieces make up what stands before it, and another
piece starts there. -/
def CutAt (pieces : List (List Char)) (i : Nat) : Prop :=
  ∃ before piece after, before ≠ [] ∧ pieces = before ++ piece :: after ∧
    before.flatten.length = i

theorem not_cutAt_nil (i : Nat) : ¬ CutAt [] i := by
  rintro ⟨before, piece, after, -, hpieces, -⟩
  simp at hpieces

theorem not_cutAt_singleton (piece : List Char) (i : Nat) : ¬ CutAt [piece] i := by
  rintro ⟨before, next, after, hne, hpieces, -⟩
  obtain ⟨first, more, rfl⟩ := List.exists_cons_of_ne_nil hne
  simp at hpieces

/-- One more character in front moves every cut by one. -/
theorem cutAt_attach (c : Char) (pieces : List (List Char)) (i : Nat) :
    CutAt (attach c pieces) i ↔ ∃ j, i = j + 1 ∧ CutAt pieces j := by
  cases pieces with
  | nil =>
    simp [attach, not_cutAt_singleton, not_cutAt_nil]
  | cons hump more =>
    constructor
    · rintro ⟨before, piece, after, hne, hpieces, rfl⟩
      obtain ⟨first, rest, rfl⟩ := List.exists_cons_of_ne_nil hne
      obtain ⟨rfl, rfl⟩ := List.cons.inj hpieces
      exact ⟨(hump :: rest).flatten.length, by simp, hump :: rest, piece, after,
        List.cons_ne_nil _ _, rfl, rfl⟩
    · rintro ⟨j, rfl, before, piece, after, hne, hpieces, rfl⟩
      obtain ⟨first, rest, rfl⟩ := List.exists_cons_of_ne_nil hne
      obtain ⟨rfl, rfl⟩ := List.cons.inj hpieces
      exact ⟨(c :: hump) :: rest, piece, after, List.cons_ne_nil _ _, rfl, by simp⟩

/-- An empty piece in front is a cut at the beginning. -/
theorem cutAt_nil_cons {pieces : List (List Char)} (h : pieces ≠ []) (i : Nat) :
    CutAt ([] :: pieces) i ↔ i = 0 ∨ CutAt pieces i := by
  constructor
  · rintro ⟨before, piece, after, hne, hpieces, rfl⟩
    obtain ⟨first, rest, rfl⟩ := List.exists_cons_of_ne_nil hne
    obtain ⟨rfl, hrest⟩ := List.cons.inj hpieces
    by_cases hnone : rest = []
    · subst hnone
      exact .inl rfl
    · exact .inr ⟨rest, piece, after, hnone, hrest, rfl⟩
  · obtain ⟨first, more, rfl⟩ := List.exists_cons_of_ne_nil h
    rintro (rfl | ⟨before, piece, after, -, hpieces, rfl⟩)
    · exact ⟨[[]], first, more, List.cons_ne_nil _ _, rfl, rfl⟩
    · exact ⟨[] :: before, piece, after, List.cons_ne_nil _ _, by rw [hpieces]; rfl, rfl⟩

/-! ## Runs of capitals -/

/-- How many capitals in a row end a text. -/
def capitalsAtEnd (text : List Char) : Nat := (text.reverse.takeWhile Char.isUpper).length

/-- One more character behind a text ends the run or makes it longer. -/
theorem capitalsAtEnd_append (text : List Char) (c : Char) :
    capitalsAtEnd (text ++ [c]) = extendRun (capitalsAtEnd text) c := by
  unfold capitalsAtEnd extendRun
  rw [List.reverse_append, List.reverse_singleton, List.singleton_append, List.takeWhile_cons]
  split <;> rfl

/-- How many capitals in a row end with the character at a position. -/
def capitalsTo (word : List Char) (i : Nat) : Nat := capitalsAtEnd (word.take (i + 1))

/-! ## The rule -/

/-- A hump starts at a position behind the first one: with a letter after a digit, with a capital
after a small letter, or with the last one of three or more capitals, if a small letter follows. -/
def HumpStartsAt (word : List Char) (i : Nat) : Prop :=
  (word[i - 1]?.any Char.isDigit ∧ word[i]?.any Char.isAlpha) ∨
    (word[i - 1]?.any Char.isLower ∧ word[i]?.any Char.isUpper) ∨
    (word[i]?.any Char.isUpper ∧ 3 ≤ capitalsTo word i ∧ word[i + 1]?.any Char.isLower)

/-- Letters of different case and digits are different characters. -/
theorem isUpper_eq_false_of_isDigit {c : Char} (h : c.isDigit) : c.isUpper = false :=
  Bool.eq_false_iff.mpr fun hupper => not_isAlpha_of_isDigit h (by simp [Char.isAlpha, hupper])

theorem isLower_eq_false_of_isDigit {c : Char} (h : c.isDigit) : c.isLower = false :=
  Bool.eq_false_iff.mpr fun hlower => not_isAlpha_of_isDigit h (by simp [Char.isAlpha, hlower])

theorem isUpper_eq_false_of_isLower {c : Char} (h : c.isLower) : c.isUpper = false := by
  rw [Bool.eq_false_iff]
  simp only [Char.isLower, Char.isUpper, ne_eq, Bool.and_eq_true, decide_eq_true_eq,
    UInt32.le_iff_toNat_le] at h ⊢
  simp at h ⊢
  omega

/-- What the pass decides for a character, where `run` capitals precede the one before it. -/
theorem startsHump_extendRun_iff (run : Nat) (previous c : Char) (next : Option Char) :
    startsHump previous (extendRun run previous) c next ↔
      (previous.isDigit ∧ c.isAlpha) ∨ (previous.isLower ∧ c.isUpper) ∨
        (c.isUpper ∧ 3 ≤ extendRun (extendRun run previous) c ∧ next.any Char.isLower) := by
  -- where the character before is no capital, the run is too short for the last rule
  have hshort : previous.isUpper = false → ¬ 3 ≤ extendRun (extendRun run previous) c := by
    intro hupper
    simp only [extendRun, hupper]
    split <;> simp
  unfold startsHump
  by_cases hdigit : previous.isDigit
  · have hlower := isLower_eq_false_of_isDigit hdigit
    simp [hdigit, hlower, hshort (isUpper_eq_false_of_isDigit hdigit)]
  by_cases hlower : previous.isLower
  · simp [hdigit, hlower, hshort (isUpper_eq_false_of_isLower hlower)]
  by_cases hupper : previous.isUpper
  · by_cases hc : c.isUpper <;> simp [hdigit, hlower, hupper, hc, extendRun]
  · simp [hdigit, hlower, hupper, hshort (Bool.eq_false_iff.mpr hupper)]

/-- What the pass decides for a character is the rule for its position. -/
theorem startsHump_iff (front : List Char) (previous c : Char) (rest : List Char) :
    startsHump previous (capitalsAtEnd (front ++ [previous])) c rest.head? ↔
      HumpStartsAt (front ++ previous :: c :: rest) (front.length + 1) := by
  have hprevious : (front ++ previous :: c :: rest)[front.length]? = some previous := by simp
  have hcurrent : (front ++ previous :: c :: rest)[front.length + 1]? = some c := by simp
  have hnext : (front ++ previous :: c :: rest)[front.length + 2]? = rest.head? := by
    rw [List.getElem?_append_right (Nat.le_add_right _ 2), Nat.add_sub_cancel_left,
      List.head?_eq_getElem?]
    rfl
  have htake : (front ++ previous :: c :: rest).take (front.length + 2) =
      (front ++ [previous]) ++ [c] := by
    rw [List.take_length_add_append, List.append_assoc]
    rfl
  unfold HumpStartsAt capitalsTo
  rw [Nat.add_sub_cancel, hprevious, hcurrent, hnext, htake, capitalsAtEnd_append _ c,
    capitalsAtEnd_append]
  exact startsHump_extendRun_iff _ _ _ _

/-- Nothing starts behind the last character. -/
theorem lt_length_of_humpStartsAt {word : List Char} {i : Nat} (h : HumpStartsAt word i) :
    i < word.length := by
  by_contra hlast
  have hnone : word[i]? = none := List.getElem?_eq_none (Nat.le_of_not_lt hlast)
  simp [HumpStartsAt, hnone] at h

/-! ## Humps -/

/-- One step of the pass: it may cut in front of the next character, and goes on behind it. -/
theorem cutAt_humpsAfter_cons (previous : Char) (run : Nat) (c : Char) (rest : List Char)
    (i : Nat) :
    CutAt (humpsAfter previous run (c :: rest)) i ↔
      (i = 0 ∧ startsHump previous run c rest.head?) ∨
        ∃ j, i = j + 1 ∧ CutAt (humpsAfter c (extendRun run c) rest) j := by
  have hne : attach c (humpsAfter c (extendRun run c) rest) ≠ [] := by
    cases humpsAfter c (extendRun run c) rest <;> exact List.cons_ne_nil _ _
  rw [humpsAfter]
  by_cases hstarts : startsHump previous run c rest.head?
  · rw [if_pos hstarts, cutAt_nil_cons hne, cutAt_attach]
    simp [hstarts]
  · rw [if_neg hstarts, cutAt_attach]
    simp [hstarts]

/-- The cuts in what follows any beginning of a word. The run of capitals that the pass remembers
is the one at the end of that beginning. -/
theorem cutAt_humpsAfter (front : List Char) (previous : Char) (text : List Char) (i : Nat) :
    CutAt (humpsAfter previous (capitalsAtEnd (front ++ [previous])) text) i ↔
      HumpStartsAt (front ++ previous :: text) (front.length + 1 + i) := by
  induction text generalizing front previous i with
  | nil =>
    refine iff_of_false (not_cutAt_singleton [] i) fun h => ?_
    have hlast := lt_length_of_humpStartsAt h
    rw [List.length_append, List.length_singleton] at hlast
    omega
  | cons c rest ih =>
    have hmore := ih (front ++ [previous]) c
    rw [capitalsAtEnd_append, List.append_assoc, List.singleton_append, List.length_append,
      List.length_singleton] at hmore
    rw [cutAt_humpsAfter_cons, startsHump_iff]
    cases i with
    | zero => simp
    | succ i =>
      have hposition : front.length + 1 + (i + 1) = front.length + 1 + 1 + i := by omega
      rw [hposition, ← hmore i]
      simp

/-- The cuts of a word. -/
theorem cutAt_humps (word : List Char) {i : Nat} (hi : 0 < i) :
    CutAt (humps word) i ↔ HumpStartsAt word i := by
  cases word with
  | nil =>
    exact iff_of_false (not_cutAt_nil i) fun h => Nat.not_lt_zero i (lt_length_of_humpStartsAt h)
  | cons c rest =>
    obtain ⟨j, rfl⟩ := Nat.exists_eq_add_one_of_ne_zero hi.ne'
    have hrun : capitalsAtEnd ([] ++ [c]) = extendRun 0 c := capitalsAtEnd_append [] c
    have hrest := cutAt_humpsAfter [] c rest j
    rw [hrun, List.nil_append, List.length_nil, Nat.zero_add, Nat.add_comm 1 j] at hrest
    rw [humps, cutAt_attach, ← hrest]
    simp

/-- No word of a text is empty. -/
theorem words_ne_nil (text : List Char) : ∀ word ∈ words text, word ≠ [] := by
  fun_induction words text with
  | case1 => simp
  | case2 c hc => simp
  | case3 c hc next more hnext ih =>
    exact attach_ne_nil fun word hw => ih word (List.mem_of_mem_tail hw)
  | case4 c hc next more hnext ih => simpa using ih
  | case5 c rest hc ih => exact ih

/-- The humps of a word are pieces of it in their order, none of them empty, and they start at its
beginning and wherever the rule says, and nowhere else. All words of a text are words of letters
and digits. -/
theorem humps_start_iff :
    (∀ text, ∀ word ∈ words text, word ≠ [] ∧ ∀ c ∈ word, c.isAlphanum) ∧
      ∀ word, (humps word).flatten = word ∧ (∀ hump ∈ humps word, hump ≠ []) ∧
        ∀ i, 0 < i → (CutAt (humps word) i ↔ HumpStartsAt word i) :=
  ⟨fun text word hword => ⟨words_ne_nil text word hword, words_alphanum text word hword⟩,
    fun word => ⟨humps_flatten word, humps_ne_nil word, fun _ hi => cutAt_humps word hi⟩⟩

/-- A word with runs of two and of four capitals, and with a digit in it. -/
def mixedWord : List Char := "getAPi2HTTPServer".toList

theorem humps_start_iff_server :
    mixedWord ∈ words "get-items/getAPi2HTTPServer!".toList ∧ mixedWord ≠ [] ∧
      humps mixedWord = ["get", "APi2", "HTTP", "Server"].map (·.toList) ∧
      CutAt (humps mixedWord) 11 ∧ ¬ CutAt (humps mixedWord) 4 := by
  obtain ⟨hwords, hcut⟩ := humps_start_iff
  obtain ⟨-, -, hstart⟩ := hcut mixedWord
  have hword : mixedWord ∈ words "get-items/getAPi2HTTPServer!".toList := by decide
  refine ⟨hword, (hwords _ _ hword).1, by decide, (hstart 11 (by decide)).mpr ?_, ?_⟩
  · exact .inr (.inr (by decide))
  · rw [hstart 4 (by decide)]
    unfold HumpStartsAt
    decide

end OpenApiClient.Naming
