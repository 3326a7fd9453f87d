import OpenApiClient.Proofs.Naming.Identifier
import OpenApiClient.Text.Latin

/-!
# Identifiers of identifiers

An identifier can be read as a text again. Where all its capitals stand alone, each of them begins
a hump and nothing else does, so that nothing changes. Two capitals in a row, as single-letter
humps leave them, are one hump at the second reading; that reading leaves no two capitals in a
row, and a third one changes nothing.

Everything here holds for any spelling that keeps ASCII text, as `Text.latin` does.

Results:
* `camelCase_humps`: the identifier of a word, character by character in its place.
* `camel_identifierBy`: the form that all identifiers have.
* `recase_eq_self_iff`, `singleCapitals_recase`: what a reading does to a text of that form.
* `identifierBy_stabilises`: when the second reading changes nothing, and that the third never
  does.
-/
namespace OpenApiClient.Naming

/-! ## A word in its place -/

/-- What follows `previous` in a word, in camel case: a capital where a hump starts, small letters
everywhere else. -/
def recased (previous : Char) (run : Nat) : List Char → List Char
  | [] => []
  | c :: rest =>
    (if startsHump previous run c rest.head? then c.toUpper else c.toLower) ::
      recased c (extendRun run c) rest

/-- A word in camel case. -/
def recase : List Char → List Char
  | [] => []
  | c :: rest => c.toLower :: recased c (extendRun 0 c) rest

theorem humpsAfter_eq_cons (previous : Char) (run : Nat) (text : List Char) :
    ∃ hump more, humpsAfter previous run text = hump :: more := by
  cases text with
  | nil => exact ⟨[], [], rfl⟩
  | cons c rest =>
    obtain ⟨hump, more, hmore⟩ : ∃ hump more,
        attach c (humpsAfter c (extendRun run c) rest) = hump :: more := by
      cases humpsAfter c (extendRun run c) rest with
      | nil => exact ⟨_, _, rfl⟩
      | cons hump more => exact ⟨_, _, rfl⟩
    rw [humpsAfter, hmore]
    split
    · exact ⟨_, _, rfl⟩
    · exact ⟨_, _, rfl⟩

theorem camelCase_humpsAfter (previous : Char) (run : Nat) (text : List Char) :
    camelCase (humpsAfter previous run text) = recased previous run text := by
  induction text generalizing previous run with
  | nil => rfl
  | cons c rest ih =>
    obtain ⟨hump, more, hmore⟩ := humpsAfter_eq_cons c (extendRun run c) rest
    rw [humpsAfter, recased, ← ih, hmore]
    split
    · simp [attach, camelCase, capitalized]
    · simp [attach, camelCase]

theorem camelCase_humps (word : List Char) : camelCase (humps word) = recase word := by
  cases word with
  | nil => rfl
  | cons c rest =>
    obtain ⟨hump, more, hmore⟩ := humpsAfter_eq_cons c (extendRun 0 c) rest
    rw [humps, recase, ← camelCase_humpsAfter, hmore]
    simp [attach, camelCase]

/-- Letters and digits without anything between them are one word. -/
theorem words_of_alphanum {text : List Char} (hne : text ≠ []) (h : ∀ c ∈ text, c.isAlphanum) :
    words text = [text] := by
  fun_induction words text with
  | case1 => exact absurd rfl hne
  | case2 c hc => rfl
  | case3 c hc next more _ ih =>
    rw [ih (List.cons_ne_nil _ _) fun d hd => h d (List.mem_cons_of_mem _ hd)]
    rfl
  | case4 c hc next more hnext _ => exact absurd (h next (by simp)) hnext
  | case5 c rest hc _ => exact absurd (h c List.mem_cons_self) hc

/-- A spelling that has nothing to do with ASCII text. -/
def KeepsAscii (spell : List Char → List Char) : Prop :=
  ∀ text, (∀ c ∈ text, c.toNat < 0x80) → spell text = text

theorem keepsAscii_latin : KeepsAscii Text.latin := by
  intro text h
  induction text with
  | nil => rfl
  | cons c rest ih =>
    rw [List.forall_mem_cons] at h
    have hrest := ih h.2
    rw [Text.latin, List.flatMap_cons, Text.latinChar, if_pos h.1] at *
    rw [hrest, List.singleton_append]

theorem ascii_of_isAlphanum {c : Char} (h : c.isAlphanum) : c.toNat < 0x80 := by
  simp only [Char.isAlphanum, Char.isAlpha, Char.isUpper, Char.isLower, Char.isDigit,
    Bool.or_eq_true, Bool.and_eq_true, decide_eq_true_eq, UInt32.le_iff_toNat_le] at h
  simp at h
  omega

/-- The identifier of letters and digits is their one word in camel case. -/
theorem identifierBy_of_alphanum {spell : List Char → List Char} (hspell : KeepsAscii spell)
    {text : List Char} (h : ∀ c ∈ text, c.isAlphanum) : identifierBy spell text = recase text := by
  have hkept : text.filter (· ≠ '\x27') = text := by
    refine List.filter_eq_self.mpr fun c hc => decide_eq_true ?_
    rintro rfl
    exact absurd (h _ hc) (by decide)
  have hspelt : spell text = text := hspell text fun c hc => ascii_of_isAlphanum (h c hc)
  rw [identifierBy, humpsBy, hspelt, hkept]
  cases text with
  | nil => rfl
  | cons c rest =>
    rw [words_of_alphanum (List.cons_ne_nil _ _) h, List.flatMap_singleton, camelCase_humps]

/-! ## The form of identifiers -/

/-- A hump in which digits come last. -/
def DigitsLast (hump : List Char) : Prop := hump.IsChain fun c d => c.isDigit → ¬ d.isAlpha

/-- A text in which no small letter follows a digit. -/
def Stepped (text : List Char) : Prop := text.IsChain fun c d => c.isDigit → ¬ d.isLower

/-- The form of an identifier: letters and digits, no capital first, and no small letter after a
digit. -/
structure Camel (text : List Char) : Prop where
  alphanum : ∀ c ∈ text, c.isAlphanum
  head : ∀ c ∈ text.head?, ¬ c.isUpper
  stepped : Stepped text

/-- In a hump no letter follows a digit. -/
theorem digitsLast_of_mem_attach (c : Char) (run : Nat) (text : List Char) :
    ∀ hump ∈ attach c (humpsAfter c run text), DigitsLast hump := by
  induction text generalizing c run with
  | nil => exact List.forall_mem_singleton.mpr (List.isChain_singleton c)
  | cons d rest ih =>
    obtain ⟨hump, more, hmore⟩ := humpsAfter_eq_cons d (extendRun run d) rest
    have hih := ih d (extendRun run d)
    rw [hmore, attach, List.forall_mem_cons] at hih
    rw [humpsAfter, hmore]
    split
    · rw [attach, attach, List.forall_mem_cons, List.forall_mem_cons]
      exact ⟨List.isChain_singleton c, hih⟩
    · rename_i hstart
      rw [attach, attach, List.forall_mem_cons]
      refine ⟨List.isChain_cons_cons.mpr ⟨fun hdigit halpha => hstart ?_, hih.1⟩, hih.2⟩
      rw [startsHump, if_pos hdigit, halpha]

theorem digitsLast_of_mem_humps {word hump : List Char} (h : hump ∈ humps word) :
    DigitsLast hump := by
  cases word with
  | nil => cases h
  | cons c rest => exact digitsLast_of_mem_attach c _ rest hump h

theorem isDigit_of_toLower {c : Char} (h : c.toLower.isDigit) : c.isDigit := by
  by_cases hupper : c.isUpper
  · have halpha : c.toLower.isAlpha := by simp [Char.isAlpha, hupper]
    exact absurd halpha (not_isAlpha_of_isDigit h)
  · rwa [Char.toLower_eq_of_not_isUpper hupper] at h

theorem isDigit_of_toUpper {c : Char} (h : c.toUpper.isDigit) : c.isDigit := by
  by_cases hlower : c.isLower
  · have halpha : c.toUpper.isAlpha := by simp [Char.isAlpha, hlower]
    exact absurd halpha (not_isAlpha_of_isDigit h)
  · rwa [Char.toUpper_eq_of_not_isLower hlower] at h

theorem stepped_map_toLower {hump : List Char} (h : DigitsLast hump) :
    Stepped (hump.map Char.toLower) := by
  refine (List.isChain_map Char.toLower).mpr (h.imp fun d e hde hdigit => ?_)
  rw [Char.isLower_toLower_eq_isAlpha]
  exact hde (isDigit_of_toLower hdigit)

theorem stepped_capitalized {hump : List Char} (h : DigitsLast hump) :
    Stepped (capitalized hump) := by
  cases hump with
  | nil => exact .nil
  | cons first rest =>
    obtain ⟨hfirst, hrest⟩ := List.isChain_cons.mp h
    refine List.isChain_cons.mpr ⟨fun e he hdigit => ?_, stepped_map_toLower hrest⟩
    rw [List.head?_map, Option.mem_def, Option.map_eq_some_iff] at he
    obtain ⟨d, hd, rfl⟩ := he
    rw [Char.isLower_toLower_eq_isAlpha]
    exact hfirst d hd (isDigit_of_toUpper hdigit)

/-- Humps but the first begin with a capital or a digit. -/
theorem head_flatMap_capitalized {humps : List (List Char)} {c : Char}
    (h : (humps.flatMap capitalized).head? = some c) : ¬ c.isLower := by
  induction humps with
  | nil => cases h
  | cons hump more ih =>
    cases hump with
    | nil => exact ih h
    | cons first rest =>
      obtain rfl := Option.some.inj h
      rw [Char.isLower_toUpper_eq_false]
      exact Bool.false_ne_true

/-- Text with no small letter after a digit can be followed by text that begins with none. -/
theorem stepped_append {first second : List Char} (hfirst : Stepped first)
    (hsecond : Stepped second) (h : ∀ c, second.head? = some c → ¬ c.isLower) :
    Stepped (first ++ second) :=
  List.isChain_append.mpr ⟨hfirst, hsecond, fun _ _ e he _ => h e he⟩

theorem stepped_flatMap_capitalized {humps : List (List Char)}
    (h : ∀ hump ∈ humps, DigitsLast hump) :
    Stepped (humps.flatMap capitalized) := by
  induction humps with
  | nil => exact .nil
  | cons hump more ih =>
    rw [List.forall_mem_cons] at h
    rw [List.flatMap_cons]
    exact stepped_append (stepped_capitalized h.1) (ih h.2) fun c => head_flatMap_capitalized

theorem camel_identifierBy (spell : List Char → List Char) (text : List Char) :
    Camel (identifierBy spell text) := by
  refine ⟨identifierBy_alphanum spell text, fun c hc => ?_, ?_⟩
  · rcases head_identifierBy hc with hlower | hdigit
    · exact Char.not_isUpper_of_isLower hlower
    · exact fun hupper => not_isAlpha_of_isDigit hdigit (by simp [Char.isAlpha, hupper])
  · have hchain : ∀ hump ∈ humpsBy spell text,
        DigitsLast hump := by
      intro hump hhump
      obtain ⟨word, -, hmem⟩ := List.mem_flatMap.mp hhump
      exact digitsLast_of_mem_humps hmem
    unfold identifierBy
    cases htext : humpsBy spell text with
    | nil => exact .nil
    | cons first more =>
      rw [htext, List.forall_mem_cons] at hchain
      exact stepped_append (stepped_map_toLower hchain.1) (stepped_flatMap_capitalized hchain.2)
        fun c => head_flatMap_capitalized

/-! ## Capitals in a row -/

/-- A text in which no capital follows another one. -/
def SingleCapitals (text : List Char) : Prop :=
  text.IsChain fun c d => ¬ (c.isUpper ∧ d.isUpper)

instance (text : List Char) : Decidable (SingleCapitals text) := by
  unfold SingleCapitals; exact inferInstance

/-- Where no small letter follows a digit, a capital that stands alone begins a hump, and nothing
else does. -/
theorem startsHump_eq_isUpper {previous c : Char} (hprevious : previous.isAlphanum)
    (hstep : previous.isDigit → ¬ c.isLower) (hsingle : ¬ (previous.isUpper ∧ c.isUpper))
    (run : Nat) (next : Option Char) : startsHump previous run c next = c.isUpper := by
  unfold startsHump
  split
  · rename_i hdigit
    simp [Char.isAlpha, hstep hdigit]
  · rename_i hdigit
    split
    · rfl
    · rename_i hlower
      have hupper : previous.isUpper := by
        simpa [Char.isAlphanum, Char.isAlpha, hdigit, hlower] using hprevious
      have hc : c.isUpper = false := by simpa [hupper] using hsingle
      simp [hc]

theorem recased_eq_self {previous : Char} {run : Nat} {text : List Char}
    (halphanum : ∀ c ∈ previous :: text, c.isAlphanum) (hsteps : Stepped (previous :: text))
    (hsingle : SingleCapitals (previous :: text)) : recased previous run text = text := by
  induction text generalizing previous run with
  | nil => rfl
  | cons c rest ih =>
    obtain ⟨hprevious, hall⟩ := List.forall_mem_cons.mp halphanum
    obtain ⟨hstep, hsteps⟩ := List.isChain_cons_cons.mp hsteps
    obtain ⟨hpair, hsingle⟩ := List.isChain_cons_cons.mp hsingle
    rw [recased, ih hall hsteps hsingle, startsHump_eq_isUpper hprevious hstep hpair]
    by_cases hc : c.isUpper
    · rw [if_pos hc, Char.toUpper_eq_of_not_isLower (Char.not_isLower_of_isUpper hc)]
    · rw [if_neg hc, Char.toLower_eq_of_not_isUpper hc]

/-- A capital after a capital begins no hump, unless it ends a run of three. -/
theorem startsHump_of_isUpper {previous : Char} (h : previous.isUpper) (run : Nat) (c : Char)
    (next : Option Char) :
    startsHump previous run c next = (c.isUpper && (2 ≤ run && next.any Char.isLower)) := by
  have hdigit : previous.isDigit = false :=
    Bool.eq_false_iff.mpr fun hd => not_isAlpha_of_isDigit hd (by simp [Char.isAlpha, h])
  have hlower : previous.isLower = false :=
    Bool.eq_false_iff.mpr (Char.not_isLower_of_isUpper h)
  simp [startsHump, hdigit, hlower, h]

/-- A capital counts as a run of one, and nothing else does. -/
theorem isUpper_of_extendRun {run : Nat} {c : Char} (h : 1 ≤ extendRun run c) : c.isUpper := by
  unfold extendRun at h
  split at h
  · assumption
  · exact absurd h (by decide)

/-- Where nothing changes, no run of capitals gets longer than one. -/
theorem singleCapitals_of_recased {previous : Char} {run : Nat} {text : List Char}
    (hrun : run ≤ 1) (hprevious : 1 ≤ run → previous.isUpper)
    (h : recased previous run text = text) : SingleCapitals (previous :: text) := by
  induction text generalizing previous run with
  | nil => exact List.isChain_singleton previous
  | cons c rest ih =>
    obtain ⟨hhead, htail⟩ := List.cons.inj h
    have hpair : ¬ (previous.isUpper ∧ c.isUpper) := by
      rintro ⟨hupper, hc⟩
      have hshort : ¬ 2 ≤ run := by omega
      rw [startsHump_of_isUpper hupper, decide_eq_false hshort, Bool.false_and, Bool.and_false,
        if_neg Bool.false_ne_true] at hhead
      rw [← hhead, Char.isUpper_toLower_eq_false] at hc
      cases hc
    refine List.isChain_cons_cons.mpr ⟨hpair, ih ?_ ?_ htail⟩
    · unfold extendRun
      split
      · rename_i hc
        have hnone : ¬ 1 ≤ run := fun hone => hpair ⟨hprevious hone, hc⟩
        omega
      · exact Nat.zero_le 1
    · exact isUpper_of_extendRun

/-- No hump is a single letter in front of another hump, if no small letter follows a digit. -/
theorem not_startsHump_twice {previous c d : Char} {run : Nat} {next : Option Char}
    (hrun : 1 ≤ run → previous.isUpper) (hstep : previous.isDigit → ¬ c.isLower)
    (hc : startsHump previous run c (some d)) :
    ¬ (c.isAlpha ∧ startsHump c (extendRun run c) d next) := by
  rintro ⟨halpha, hd⟩
  by_cases hupper : c.isUpper
  · rw [startsHump_of_isUpper hupper, extendRun, if_pos hupper] at hd
    simp only [Bool.and_eq_true, decide_eq_true_eq] at hd
    obtain ⟨hdupper, hlong, -⟩ := hd
    rw [startsHump_of_isUpper (hrun (by omega))] at hc
    simp only [Option.any_some, Bool.and_eq_true] at hc
    exact Char.not_isLower_of_isUpper hdupper hc.2.2
  · have hlower : c.isLower := by simpa [Char.isAlpha, hupper] using halpha
    unfold startsHump at hc
    split at hc
    · exact hstep ‹_› hlower
    · split at hc
      · exact hupper hc
      · simp [hupper] at hc

/-- Only the first letter of a hump can be a capital. -/
theorem startsHump_of_isUpper_ite {start : Bool} {c : Char}
    (h : (if start then c.toUpper else c.toLower).isUpper) : start ∧ c.isAlpha := by
  split at h
  · rw [Char.isUpper_toUpper_eq_isAlpha] at h
    exact ⟨‹_›, h⟩
  · rw [Char.isUpper_toLower_eq_false] at h
    cases h

theorem singleCapitals_recased {previous : Char} {run : Nat} {text : List Char}
    (hrun : 1 ≤ run → previous.isUpper) (hsteps : Stepped (previous :: text)) :
    SingleCapitals (recased previous run text) := by
  induction text generalizing previous run with
  | nil => exact .nil
  | cons c rest ih =>
    obtain ⟨hstep, hsteps⟩ := List.isChain_cons_cons.mp hsteps
    refine List.isChain_cons.mpr ⟨?_, ih isUpper_of_extendRun hsteps⟩
    rintro e he ⟨hc, hd⟩
    cases rest with
    | nil => cases he
    | cons d rest =>
      obtain rfl := Option.some.inj he
      obtain ⟨hfirst, halpha⟩ := startsHump_of_isUpper_ite hc
      obtain ⟨hsecond, -⟩ := startsHump_of_isUpper_ite hd
      exact not_startsHump_twice hrun hstep hfirst ⟨halpha, hsecond⟩

theorem recase_eq_self_iff {text : List Char} (h : Camel text) :
    recase text = text ↔ SingleCapitals text := by
  cases text with
  | nil => exact iff_of_true rfl .nil
  | cons c rest =>
    have hsmall : c.toLower = c := Char.toLower_eq_of_not_isUpper (h.head c rfl)
    rw [recase, hsmall, List.cons.injEq]
    constructor
    · rintro ⟨-, hrest⟩
      have hrun : extendRun 0 c = 0 := if_neg (h.head c rfl)
      exact singleCapitals_of_recased (by omega) isUpper_of_extendRun hrest
    · exact fun hsingle => ⟨rfl, recased_eq_self h.alphanum h.stepped hsingle⟩

/-- Reading an identifier again leaves no two capitals in a row. -/
theorem singleCapitals_recase {text : List Char} (h : Camel text) :
    SingleCapitals (recase text) := by
  cases text with
  | nil => exact .nil
  | cons c rest =>
    refine List.isChain_cons.mpr ⟨fun d _ hcd => ?_,
      singleCapitals_recased isUpper_of_extendRun h.stepped⟩
    rw [Char.isUpper_toLower_eq_false] at hcd
    exact Bool.false_ne_true hcd.1

/-! ## Reading again -/

/-- An identifier that is read again stays as it is exactly if no capital of it follows another
one, and from the second reading on nothing changes any more. -/
theorem identifierBy_stabilises {spell : List Char → List Char} (hspell : KeepsAscii spell)
    (text : List Char) :
    let once := identifierBy spell text
    let twice := identifierBy spell once
    (twice = once ↔ SingleCapitals once) ∧ identifierBy spell twice = twice := by
  intro once twice
  have honce : Camel once := camel_identifierBy spell text
  have htwice : Camel twice := camel_identifierBy spell once
  have hrecase : ∀ {text}, Camel text → identifierBy spell text = recase text :=
    fun h => identifierBy_of_alphanum hspell h.alphanum
  have hsingle : SingleCapitals twice := by
    rw [show twice = recase once from hrecase honce]
    exact singleCapitals_recase honce
  constructor
  · rw [show twice = recase once from hrecase honce]
    exact recase_eq_self_iff honce
  · rw [hrecase htwice]
    exact (recase_eq_self_iff htwice).mpr hsingle

/-- Single letters leave capitals in a row, which the second reading takes for one hump. -/
theorem identifierBy_stabilises_letters :
    let once := identifierBy Text.latin "a-b-c d2e".toList
    let twice := identifierBy Text.latin once
    KeepsAscii Text.latin ∧ once = "aBCD2E".toList ∧ twice = "aBcd2E".toList ∧
      (twice = once ↔ SingleCapitals once) ∧ identifierBy Text.latin twice = twice := by
  intro once twice
  exact ⟨keepsAscii_latin, by decide +kernel, by decide +kernel,
    identifierBy_stabilises keepsAscii_latin "a-b-c d2e".toList⟩

end OpenApiClient.Naming
