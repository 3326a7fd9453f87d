import Mathlib
import OpenApiClient.Document

/-!
# Letter case in media types

How a content type is taken apart does not depend on its letter case: the parts of a text in small
letters are the parts of the text, in small letters. The words that say JSON are compared as they
are written.

Results:
* `keepsCase_ofText?`: the parser keeps the letter case and does not look at it.
* `isJsonContentTypeBy_eq_toLower_iff`: for which content types letter case does not count.
* `Content.jsonSchemaBy?_eq_of_recased`: how content types are spelt does not change the schema.
* `letterCase_iff`: the same for the body and the responses of an operation.
-/
namespace OpenApiClient

/-- A text in small letters. Letters outside ASCII stay as they are. -/
def smallLetters (text : List Char) : List Char := text.map Char.toLower

/-- The same media type in small letters. -/
def MediaType.small (media : MediaType) : MediaType :=
  ⟨smallLetters media.kind, smallLetters media.subtype, media.suffix.map smallLetters⟩

/-- A parser keeps the letter case of the text that it parses, and does not look at it. -/
def KeepsCase (parse : List Char → Option MediaType) : Prop :=
  ∀ text, parse (smallLetters text) = (parse text).map MediaType.small

/-! ## Characters -/

theorem isAlphanum_toLower (c : Char) : c.toLower.isAlphanum = c.isAlphanum := by
  by_cases h : c.isUpper
  · simp [Char.isAlphanum, Char.isAlpha, h]
  · rw [Char.toLower_eq_of_not_isUpper h]

/-- No other character becomes one that is no letter. -/
theorem toLower_eq_iff {c d : Char} (h : ¬ d.isAlpha) : c.toLower = d ↔ c = d := by
  by_cases hupper : c.isUpper
  · refine iff_of_false ?_ ?_
    · rintro rfl
      exact h (by simp [Char.isAlpha, hupper])
    · rintro rfl
      exact h (by simp [Char.isAlpha, hupper])
  · rw [Char.toLower_eq_of_not_isUpper hupper]

theorem beq_toLower {d : Char} (h : ¬ d.isAlpha) (c : Char) : (c.toLower == d) = (c == d) := by
  rw [Bool.eq_iff_iff, beq_iff_eq, beq_iff_eq, toLower_eq_iff h]

/-- No sign of a name is a letter. -/
theorem isAlpha_signs : "!#$&-^_.+%*\x27".toList.all fun d => !d.isAlpha := by decide

theorem isNameChar_toLower (c : Char) : isNameChar c.toLower = isNameChar c := by
  have hcontains : ∀ signs : List Char, signs.all (fun d => !d.isAlpha) →
      signs.contains c.toLower = signs.contains c := by
    intro signs h
    induction signs with
    | nil => rfl
    | cons d more ih =>
      rw [List.all_cons, Bool.and_eq_true] at h
      have hd : ¬ d.isAlpha := by simpa using h.1
      rw [List.contains_cons, List.contains_cons, beq_toLower hd, ih h.2]
  unfold isNameChar
  rw [isAlphanum_toLower, hcontains _ isAlpha_signs]

theorem isGap_toLower (c : Char) : MediaType.isGap c.toLower = MediaType.isGap c := by
  unfold MediaType.isGap
  rw [beq_toLower (by decide), beq_toLower (by decide)]

/-! ## Texts -/

theorem smallLetters_cons (c : Char) (rest : List Char) :
    smallLetters (c :: rest) = c.toLower :: smallLetters rest := rfl

section

variable {test : Char → Bool} (htest : ∀ c, test c.toLower = test c) (text : List Char)

include htest

theorem takeWhile_smallLetters :
    (smallLetters text).takeWhile test = smallLetters (text.takeWhile test) := by
  unfold smallLetters
  rw [List.takeWhile_map]
  exact congrArg _ (congrArg (List.takeWhile · text) (funext htest))

theorem dropWhile_smallLetters :
    (smallLetters text).dropWhile test = smallLetters (text.dropWhile test) := by
  unfold smallLetters
  rw [List.dropWhile_map]
  exact congrArg _ (congrArg (List.dropWhile · text) (funext htest))

end

theorem drop_smallLetters (text : List Char) (n : Nat) :
    (smallLetters text).drop n = smallLetters (text.drop n) := List.map_drop.symm

theorem length_smallLetters (text : List Char) : (smallLetters text).length = text.length :=
  List.length_map _

theorem toList_toLower (text : String) : text.toLower.toList = smallLetters text.toList :=
  String.toList_map

theorem isName_smallLetters (text : List Char) : isName (smallLetters text) = isName text := by
  cases text with
  | nil => rfl
  | cons first rest =>
    have hall : (smallLetters rest).all isNameChar = rest.all isNameChar := by
      unfold smallLetters
      rw [List.all_map]
      exact congrArg rest.all (funext isNameChar_toLower)
    rw [smallLetters_cons, isName, isName, isAlphanum_toLower, beq_toLower (by decide), hall,
      length_smallLetters]

namespace MediaType

/-! ## Parameters -/

theorem afterQuoted_plain {c : Char} (hquote : c ≠ '\x22') (hbackslash : c ≠ '\\')
    (rest : List Char) : afterQuoted (c :: rest) = afterQuoted rest := by
  rw [afterQuoted]
  · exact hquote
  · exact fun _ _ h => absurd h hbackslash

theorem afterQuoted_smallLetters (text : List Char) :
    afterQuoted (smallLetters text) = (afterQuoted text).map smallLetters := by
  fun_induction afterQuoted text with
  | case1 => rfl
  | case2 rest => rfl
  | case3 c rest ih => exact ih
  | case4 c rest hquote hbackslash ih =>
    by_cases hc : c = '\\'
    · -- a backslash at the end escapes nothing
      subst hc
      cases rest with
      | nil => rfl
      | cons d more => exact (hbackslash d more rfl rfl).elim
    · have hquote' : c.toLower ≠ '\x22' := fun h => hquote ((toLower_eq_iff (by decide)).mp h)
      have hc' : c.toLower ≠ '\\' := fun h => hc ((toLower_eq_iff (by decide)).mp h)
      rw [smallLetters_cons, afterQuoted_plain hquote' hc', ih]

theorem afterValue_ne {c : Char} (h : c ≠ '=') (rest : List Char) :
    afterValue (c :: rest) = none := by
  rw [afterValue]
  · exact fun _ e => h (List.cons.inj e).1
  · exact fun _ e => h (List.cons.inj e).1

theorem afterValue_value {rest : List Char} (h : rest.head? ≠ some '\x22') :
    afterValue ('=' :: rest) = some (rest.dropWhile isNameChar) := by
  rw [afterValue]
  rintro more rfl
  exact h rfl

theorem head_smallLetters (text : List Char) {d : Char} (h : ¬ d.isAlpha) :
    (smallLetters text).head? = some d ↔ text.head? = some d := by
  cases text with
  | nil => rfl
  | cons c rest => simp [smallLetters_cons, toLower_eq_iff h]

theorem afterValue_smallLetters (text : List Char) :
    afterValue (smallLetters text) = (afterValue text).map smallLetters := by
  cases text with
  | nil => rfl
  | cons c rest =>
    by_cases hc : c = '='
    · subst hc
      rw [smallLetters_cons, show '='.toLower = '=' from by decide]
      by_cases hquote : rest.head? = some '\x22'
      · obtain ⟨more, rfl⟩ := List.head?_eq_some_iff.mp hquote
        exact afterQuoted_smallLetters more
      · have hquote' : (smallLetters rest).head? ≠ some '\x22' := by
          rwa [ne_eq, head_smallLetters rest (by decide)]
        rw [afterValue_value hquote, afterValue_value hquote',
          dropWhile_smallLetters isNameChar_toLower]
        rfl
    · have hc' : c.toLower ≠ '=' := fun h => hc ((toLower_eq_iff (by decide)).mp h)
      rw [smallLetters_cons, afterValue_ne hc, afterValue_ne hc']
      rfl

theorem afterParameter_smallLetters (text : List Char) :
    afterParameter (smallLetters text) = (afterParameter text).map smallLetters := by
  unfold afterParameter
  simp only [takeWhile_smallLetters isNameChar_toLower, isName_smallLetters, length_smallLetters,
    drop_smallLetters, afterValue_smallLetters]
  split <;> rfl

theorem areParameters_smallLetters (fuel : Nat) (text : List Char) :
    areParameters fuel (smallLetters text) = areParameters fuel text := by
  induction fuel generalizing text with
  | zero => rfl
  | succ fuel ih =>
    unfold areParameters
    rw [dropWhile_smallLetters isGap_toLower]
    cases text.dropWhile isGap with
    | nil => rfl
    | cons c rest =>
      by_cases hc : c = ';'
      · subst hc
        rw [smallLetters_cons, show ';'.toLower = ';' from by decide]
        simp only [dropWhile_smallLetters isGap_toLower]
        cases rest.dropWhile isGap with
        | nil => rfl
        | cons d more =>
          have hafter := afterParameter_smallLetters (d :: more)
          rw [smallLetters_cons] at hafter
          simp only [smallLetters_cons, hafter]
          cases afterParameter (d :: more) with
          | none => rfl
          | some after => exact ih after
      · have hc' : c.toLower ≠ ';' := fun h => hc ((toLower_eq_iff (by decide)).mp h)
        simp only [smallLetters_cons]
        split
        · rename_i h
          cases h
        · rename_i h
          exact absurd (List.cons.inj h).1 hc'
        · split
          · rename_i h
            cases h
          · rename_i h
            exact absurd (List.cons.inj h).1 hc
          · rfl

/-! ## Media types -/

theorem upTo_smallLetters {d : Char} (h : ¬ d.isAlpha) (text : List Char) :
    (smallLetters text).takeWhile (· ≠ d) = smallLetters (text.takeWhile (· ≠ d)) := by
  have htest : ∀ c : Char, decide (c.toLower ≠ d) = decide (c ≠ d) :=
    fun c => decide_eq_decide.mpr (not_congr (toLower_eq_iff h))
  exact takeWhile_smallLetters htest text

theorem reverse_smallLetters (text : List Char) :
    (smallLetters text).reverse = smallLetters text.reverse := List.map_reverse.symm

theorem splitSuffix_smallLetters (run : List Char) :
    splitSuffix (smallLetters run) =
      (smallLetters (splitSuffix run).1, (splitSuffix run).2.map smallLetters) := by
  have hnil : ∀ text, smallLetters text = [] ↔ text = [] := fun _ => List.map_eq_nil_iff
  have htake : ∀ n, (smallLetters run).take n = smallLetters (run.take n) :=
    fun _ => List.map_take.symm
  unfold splitSuffix
  simp only [reverse_smallLetters, upTo_smallLetters (d := '+') (by decide), length_smallLetters,
    hnil, htake]
  split <;> rfl

theorem ofRest?_smallLetters (kind rest : List Char) :
    ofRest? (smallLetters kind) (smallLetters rest) = (ofRest? kind rest).map small := by
  have hlast : ∀ run : List Char,
      (smallLetters run).getLast? = some '+' ↔ run.getLast? = some '+' := by
    intro run
    rw [← List.head?_reverse, reverse_smallLetters, head_smallLetters _ (by decide),
      List.head?_reverse]
  have hsuffix : ∀ suffix : Option (List Char),
      suffixFits (suffix.map smallLetters) = suffixFits suffix := by
    intro suffix
    cases suffix with
    | none => rfl
    | some suffix =>
      have htail : (smallLetters suffix).tail = smallLetters suffix.tail := List.map_tail.symm
      rw [Option.map_some, suffixFits, suffixFits, htail, isName_smallLetters]
  unfold ofRest?
  simp only [takeWhile_smallLetters isNameChar_toLower, drop_smallLetters, length_smallLetters,
    splitSuffix_smallLetters, isName_smallLetters, hsuffix, hlast, areParameters_smallLetters]
  split <;> rfl

/-- The parts of a text in small letters are the parts of the text in small letters. -/
theorem keepsCase_ofText? : KeepsCase ofText? := by
  intro text
  unfold ofText?
  simp only [upTo_smallLetters (d := '/') (by decide), length_smallLetters, drop_smallLetters]
  cases text.drop (text.takeWhile (· ≠ '/')).length with
  | nil => rfl
  | cons _ rest => exact ofRest?_smallLetters _ rest

/-- Small letters are among the spellings that denote JSON. -/
theorem denotesJson_small {media : MediaType} (h : media.denotesJson) :
    media.small.denotesJson := by
  have happlication : smallLetters "application".toList = "application".toList := by decide
  have hjson : smallLetters "json".toList = "json".toList := by decide
  simp only [denotesJson, small, Bool.or_eq_true, Bool.and_eq_true, beq_iff_eq] at h ⊢
  rcases h with ⟨hkind, hsubtype⟩ | hsuffix
  · rw [hkind, hsubtype]
    exact .inl ⟨happlication, hjson⟩
  · rw [hsuffix, Option.map_some, hjson]
    exact .inr rfl

end MediaType

/-! ## What denotes JSON -/

/-- If a content type denotes JSON in small letters, then the words that say so are written in
small letters: the type and the subtype, or the suffix. -/
def SpeltSmall (parse : List Char → Option MediaType) (contentType : String) : Prop :=
  ∀ media ∈ parse contentType.toList, media.small.denotesJson → media.denotesJson

instance (parse : List Char → Option MediaType) (contentType : String) :
    Decidable (SpeltSmall parse contentType) :=
  inferInstanceAs (Decidable (∀ media ∈ parse contentType.toList, _))

def Content.SpeltSmall (parse : List Char → Option MediaType) (content : Content) : Prop :=
  ∀ contentType ∈ content.keys, OpenApiClient.SpeltSmall parse contentType

/-- The same content types but for their letter case, with the same schemas. -/
def Content.Recased (first second : Content) : Prop :=
  List.Forall₂ (fun one other => one.1.toLower = other.1.toLower ∧ one.2 = other.2)
    first.entries second.entries

def Response.Recased (first second : Response) : Prop :=
  Option.Rel Content.Recased first.content second.content

/-- The same operation but for the letter case of its content types. -/
structure Operation.Recased (first second : Operation) : Prop where
  body : Option.Rel Content.Recased (first.requestBody.map (·.content))
    (second.requestBody.map (·.content))
  responses : List.Forall₂ (fun one other => one.1 = other.1 ∧ Response.Recased one.2 other.2)
    first.responses.entries second.responses.entries

/-- The contents of the request body and of every response. -/
def Operation.contents (operation : Operation) : List Content :=
  (operation.requestBody.map (·.content)).toList ++ operation.responses.values.filterMap (·.content)

/-- Every content type that may denote JSON says so in small letters. -/
def Operation.SpeltSmall (parse : List Char → Option MediaType) (operation : Operation) : Prop :=
  ∀ content ∈ operation.contents, content.SpeltSmall parse

section

variable {parse : List Char → Option MediaType}

theorem isJsonContentTypeBy_toLower (h : KeepsCase parse) (text : String) :
    isJsonContentTypeBy parse text.toLower = (parse text.toList).any (·.small.denotesJson) := by
  rw [isJsonContentTypeBy, toList_toLower, h]
  cases parse text.toList <;> rfl

theorem isJsonContentTypeBy_eq_toLower_iff (h : KeepsCase parse) (text : String) :
    isJsonContentTypeBy parse text = isJsonContentTypeBy parse text.toLower ↔
      SpeltSmall parse text := by
  rw [isJsonContentTypeBy_toLower h, isJsonContentTypeBy, SpeltSmall]
  cases parse text.toList with
  | none => simp
  | some media =>
    have hsmall := media.denotesJson_small
    rw [Bool.eq_iff_iff]
    constructor
    · intro hiff other hother
      obtain rfl := Option.some.inj hother
      exact hiff.mpr
    · exact fun hspelt => ⟨hsmall, hspelt media rfl⟩

/-- Two spellings that both say JSON in small letters say the same. -/
theorem isJsonContentTypeBy_eq_of_toLower_eq (h : KeepsCase parse) {one other : String}
    (hlower : one.toLower = other.toLower) (hone : SpeltSmall parse one)
    (hother : SpeltSmall parse other) :
    isJsonContentTypeBy parse one = isJsonContentTypeBy parse other := by
  rw [(isJsonContentTypeBy_eq_toLower_iff h one).mpr hone,
    (isJsonContentTypeBy_eq_toLower_iff h other).mpr hother, hlower]

/-- What is found first in lists that go together, by tests that agree on their members. -/
theorem rel_find? {α : Type} {R : α → α → Prop} {p : α → Bool} {l l' : List α}
    (h : List.Forall₂ R l l') (hp : ∀ a ∈ l, ∀ b ∈ l', R a b → p a = p b) :
    Option.Rel R (l.find? p) (l'.find? p) := by
  induction h with
  | nil => exact .none
  | @cons a b l l' hab _ ih =>
    have hfirst := hp a (.head _) b (.head _) hab
    rw [List.find?_cons, List.find?_cons, ← hfirst]
    cases p a with
    | true => exact .some hab
    | false => exact ih fun a ha b hb => hp a (.tail _ ha) b (.tail _ hb)

theorem bind_eq_of_rel {α β : Type} {R : α → α → Prop} {one other : Option α}
    (h : Option.Rel R one other) {f : α → Option β}
    (hf : ∀ a ∈ one, ∀ b ∈ other, R a b → f b = f a) : other.bind f = one.bind f := by
  cases h with
  | none => rfl
  | some hab => exact hf _ rfl _ rfl hab

/-- The first schema under JSON is the same however the content types are spelt. -/
theorem Content.jsonSchemaBy?_eq_of_recased (h : KeepsCase parse) {first second : Content}
    (hfirst : first.SpeltSmall parse) (hsecond : second.SpeltSmall parse)
    (hrecased : first.Recased second) :
    second.jsonSchemaBy? parse = first.jsonSchemaBy? parse := by
  have hfound := rel_find? (p := fun entry => isJsonContentTypeBy parse entry.1) hrecased
    fun a ha b hb hab => isJsonContentTypeBy_eq_of_toLower_eq h hab.1
      (hfirst _ (List.mem_map_of_mem ha)) (hsecond _ (List.mem_map_of_mem hb))
  unfold Content.jsonSchemaBy?
  rw [Option.map_eq_bind, Option.map_eq_bind]
  exact bind_eq_of_rel hfound fun _ _ _ _ hab => congrArg some hab.2.symm

theorem Operation.mem_contents_of_response {operation : Operation} {status : String}
    {response : Response} (hresponse : response ∈ operation.responses.get? status)
    {content : Content} (hcontent : content ∈ response.content) :
    content ∈ operation.contents :=
  List.mem_append_right _
    (List.mem_filterMap.mpr ⟨response, Keyed.mem_values_of_get? hresponse, hcontent⟩)

/-- The responses under one status go together. -/
theorem Operation.Recased.response {first second : Operation} (hrecased : first.Recased second)
    (status : String) :
    Option.Rel Response.Recased (first.responses.get? status) (second.responses.get? status) := by
  have hfound := rel_find? (p := fun entry => decide (entry.1 = status)) hrecased.responses
    fun a _ b _ hab => by rw [hab.1]
  unfold Keyed.get?
  generalize first.responses.entries.find? _ = one at hfound ⊢
  generalize second.responses.entries.find? _ = other at hfound ⊢
  cases hfound with
  | none => exact .none
  | some hab => exact .some hab.2

/-- Letter case counts for a content type exactly if the words that say JSON are not written in
small letters. Where they are, in every content type of an operation and of the same operation
spelt otherwise, the body and every response have the same schema. -/
theorem letterCase_iff (h : KeepsCase parse) :
    (∀ contentType : String,
      isJsonContentTypeBy parse contentType = isJsonContentTypeBy parse contentType.toLower ↔
        SpeltSmall parse contentType) ∧
    ∀ first second : Operation, first.Recased second →
      first.SpeltSmall parse → second.SpeltSmall parse →
        second.jsonBodyBy? parse = first.jsonBodyBy? parse ∧
          ∀ status, (second.responses.get? status).bind (·.jsonSchemaBy? parse) =
            (first.responses.get? status).bind (·.jsonSchemaBy? parse) := by
  refine ⟨isJsonContentTypeBy_eq_toLower_iff h, fun first second hrecased hfirst hsecond => ?_⟩
  constructor
  · have hbody := bind_eq_of_rel hrecased.body fun one hone other hother =>
      Content.jsonSchemaBy?_eq_of_recased h
        (hfirst one (List.mem_append_left _ (Option.mem_toList.mpr hone)))
        (hsecond other (List.mem_append_left _ (Option.mem_toList.mpr hother)))
    rwa [Option.bind_map, Option.bind_map] at hbody
  · refine fun status => bind_eq_of_rel (hrecased.response status) ?_
    intro one hone other hother hresponse
    exact bind_eq_of_rel hresponse fun before hbefore after hafter =>
      Content.jsonSchemaBy?_eq_of_recased h
        (hfirst before (Operation.mem_contents_of_response hone hbefore))
        (hsecond after (Operation.mem_contents_of_response hother hafter))

end

/-- An operation that takes and gives one text under one content type. -/
def echo (contentType : String) : Operation :=
  let content : Content := .ofList [(contentType, .primitive "string")]
  { requestBody := some { content := content }
    responses := .ofList [("200", { content := some content })] }

theorem speltSmall_echo {parse : List Char → Option MediaType} {contentType : String}
    (h : SpeltSmall parse contentType) : (echo contentType).SpeltSmall parse := by
  have hcontent : Content.SpeltSmall parse (.ofList [(contentType, .primitive "string")]) :=
    List.forall_mem_singleton.mpr h
  exact List.forall_mem_cons.mpr ⟨hcontent, List.forall_mem_singleton.mpr hcontent⟩

theorem recased_echo {one other : String}
    (h : smallLetters one.toList = smallLetters other.toList) :
    (echo one).Recased (echo other) := by
  have hlower : one.toLower = other.toLower := by
    rw [← String.toList_inj, toList_toLower, toList_toLower, h]
  have hcontent : Content.Recased (.ofList [(one, .primitive "string")])
      (.ofList [(other, .primitive "string")]) := .cons ⟨hlower, rfl⟩ .nil
  exact ⟨.some hcontent, .cons ⟨rfl, .some hcontent⟩ .nil⟩

/-- Parameters may be spelt in any letter case. -/
theorem letterCase_iff_charset :
    let first := echo "application/json; charset=utf-8"
    let second := echo "application/json; Charset=UTF-8"
    KeepsCase MediaType.ofText? ∧
      second.jsonBodyBy? MediaType.ofText? = first.jsonBodyBy? MediaType.ofText? ∧
      ∀ status, (second.responses.get? status).bind (·.jsonSchemaBy? MediaType.ofText?) =
        (first.responses.get? status).bind (·.jsonSchemaBy? MediaType.ofText?) := by
  intro first second
  have hkeeps := MediaType.keepsCase_ofText?
  exact ⟨hkeeps, (letterCase_iff hkeeps).2 first second (recased_echo (by decide))
    (speltSmall_echo (by decide)) (speltSmall_echo (by decide))⟩

/-- A content type with capitals in the words that say JSON does not denote JSON. What is sent and
what is answered under it is as if it were not declared. -/
theorem letterCase_not_ignored :
    let parse := MediaType.ofText?
    isJsonContentTypeBy parse "Application/JSON" = false ∧
      isJsonContentTypeBy parse "Application/JSON".toLower = true ∧
      (echo "application/json").Recased (echo "Application/JSON") ∧
      (echo "application/json").jsonBodyBy? parse = some (.primitive "string") ∧
      (echo "Application/JSON").jsonBodyBy? parse = none ∧
      (echo "application/json").resultBy? parse = some (.primitive "string") ∧
      (echo "Application/JSON").resultBy? parse = none := by
  intro parse
  have hcapital : isJsonContentTypeBy parse "Application/JSON" = false := by decide
  have hsmall : isJsonContentTypeBy parse "application/json" = true := by decide
  have hlower : "Application/JSON".toLower = "application/json" := by
    rw [← String.toList_inj, toList_toLower]
    decide
  have hfound : Content.jsonSchemaBy? parse
      (.ofList [("application/json", .primitive "string")]) = some (.primitive "string") := by
    simp [Content.jsonSchemaBy?, Keyed.ofList, putAll, put, hsmall]
  have hmissed : Content.jsonSchemaBy? parse
      (.ofList [("Application/JSON", .primitive "string")]) = none := by
    simp [Content.jsonSchemaBy?, Keyed.ofList, putAll, put, hcapital]
  exact ⟨hcapital, by rw [hlower, hsmall], recased_echo (by decide), hfound, hmissed, hfound,
    hmissed⟩

end OpenApiClient
