import Mathlib.Data.List.Chain
import Mathlib.Data.List.Infix
import OpenApiClient.Client.Declaration
import OpenApiClient.Client.FunctionCode
import OpenApiClient.Output.Layout
import OpenApiClient.Proofs.Text.LineEnds
import OpenApiClient.Proofs.Text.Lines

/-!
# Where comments end

Descriptions go into comments, and a description may hold the two characters that end one. They
are taken apart before the description is cut into lines and trimmed, or after; either way no
star of it stands right before a slash.

Results:
* `open_insideComment`: an escaped text ends no comment, wherever it is cut.
* `commentLines_docComment`: the lines that the comment of a declaration can have.
* `docBlock_eq`, `docComment_eq`: a comment is text that ends no comment, and its end.
* `comments_close_once`: the documentation of functions and declarations ends where it should.
-/
namespace OpenApiClient.Client

open Output

/-! ## Ends of comments -/

/-- The two characters that end a comment. -/
def commentEnd : List Char := ['*', '/']

/-- The end of a comment begins at one place of the text only, and it is all that stands there. -/
def ClosesOnce (text : String) : Prop :=
  text.toList.tails.filter (commentEnd.isPrefixOf ·) = [commentEnd]

instance (text : String) : Decidable (ClosesOnce text) := by
  unfold ClosesOnce; exact inferInstance

/-- A text in which no star stands right before a slash. -/
def Open (text : List Char) : Prop := text.IsChain fun c d => ¬ (c = '*' ∧ d = '/')

theorem Open.append {first second : List Char} (hfirst : Open first) (hsecond : Open second)
    (h : first.getLast? ≠ some '*' ∨ second.head? ≠ some '/') : Open (first ++ second) := by
  refine List.isChain_append.mpr ⟨hfirst, hsecond, ?_⟩
  rintro c hc d hd ⟨rfl, rfl⟩
  rcases h with h | h
  · exact h hc
  · exact h hd

theorem open_of_notMem {text : List Char} (h : '*' ∉ text) : Open text := by
  induction text with
  | nil => exact .nil
  | cons c rest ih =>
    rw [List.mem_cons, not_or] at h
    exact List.isChain_cons.mpr ⟨fun d _ hcd => h.1 hcd.1.symm, ih h.2⟩

/-- Text that ends no comment, closed by one. -/
theorem closesOnce_of_open {front : List Char} (h : Open (front ++ ['*'])) :
    (front ++ commentEnd).tails.filter (commentEnd.isPrefixOf ·) = [commentEnd] := by
  induction front with
  | nil => rfl
  | cons c rest ih =>
    obtain ⟨hhead, hrest⟩ := List.isChain_cons.mp h
    have hnot : ¬ commentEnd <+: c :: (rest ++ commentEnd) := by
      intro hm
      obtain ⟨hstar, hslash⟩ := List.cons_prefix_cons.mp hm
      cases rest with
      | nil => exact absurd (List.cons_prefix_cons.mp hslash).1 (by decide)
      | cons d more =>
        exact hhead d rfl ⟨hstar.symm, (List.cons_prefix_cons.mp hslash).1.symm⟩
    rw [List.cons_append, List.tails_cons, List.filter_cons_of_neg, ih hrest]
    rwa [List.isPrefixOf_iff_prefix]

/-- Line ends change nothing: a star and a slash that a line end parts stay apart. -/
theorem open_unifyLineEnds : ∀ {text : List Char}, Open text → Open (Text.unifyLineEnds text)
  | [], _ => .nil
  | c :: rest, h => by
    have hrest := open_unifyLineEnds (List.isChain_cons.mp h).2
    have hfeed : ∀ {more}, Open more → Open ('\n' :: more) := fun hmore =>
      List.isChain_cons.mpr ⟨fun d _ hcd => absurd hcd.1 (by decide), hmore⟩
    by_cases hc : c = '\r'
    · subst hc
      by_cases hpair : rest.head? = some '\n'
      · obtain ⟨more, rfl⟩ := List.head?_eq_some_iff.mp hpair
        rw [Text.unifyLineEnds_pair]
        exact hfeed (open_unifyLineEnds
          (List.isChain_cons.mp (List.isChain_cons.mp h).2).2)
      · rw [Text.unifyLineEnds_return hpair]
        exact hfeed hrest
    · rw [Text.unifyLineEnds_cons_ne hc]
      refine List.isChain_cons.mpr ⟨?_, hrest⟩
      rintro d hd ⟨rfl, rfl⟩
      rw [Text.head_unifyLineEnds, Option.mem_def, Option.map_eq_some_iff] at hd
      obtain ⟨e, he, hslash⟩ := hd
      have hsame : e = '/' := by
        split at hslash
        · exact absurd hslash (by decide)
        · exact hslash
      subst hsame
      exact (List.isChain_cons.mp h).1 '/' he ⟨rfl, rfl⟩

/-- Behind text that ends no comment, and a blank, the end of a comment is the only one, also
after the line ends have been unified. -/
theorem closesOnce_append {front : List Char} (h : Open front) {text : String}
    (htext : text.toList = front ++ ' ' :: commentEnd) :
    ClosesOnce text ∧ ClosesOnce (unifiedLineEnds text) := by
  have hclosed : ∀ {front : List Char}, Open front →
      (front ++ ' ' :: commentEnd).tails.filter (commentEnd.isPrefixOf ·) = [commentEnd] := by
    intro front hopen
    have hstar : Open [' ', '*'] := by simp [Open]
    have hall : Open ((front ++ [' ']) ++ ['*']) := by
      rw [List.append_assoc]
      exact hopen.append hstar (.inr (by decide))
    have hend := closesOnce_of_open hall
    rwa [List.append_assoc] at hend
  unfold ClosesOnce unifiedLineEnds
  rw [htext, String.toList_ofList, Text.unifyLineEnds_append_back (by decide)]
  exact ⟨hclosed h, hclosed (open_unifyLineEnds h)⟩

/-! ## Escaped texts -/

/-- The first character of an escaped text is that of the text. -/
theorem head_insideComment (text : List Char) :
    (Text.replaceAll '*' ['/'] ['*', '\\', '/'] text).head? = text.head? := by
  cases text with
  | nil => rfl
  | cons c rest =>
    by_cases hc : c = '*'
    · subst hc
      by_cases hslash : ['/'] <+: rest
      · obtain ⟨more, rfl⟩ := hslash
        rw [Text.replaceAll_match]; rfl
      · rw [Text.replaceAll_noMatch hslash]; rfl
    · rw [Text.replaceAll_cons_ne hc]; rfl

theorem open_replaceAll : ∀ text : List Char,
    Open (Text.replaceAll '*' ['/'] ['*', '\\', '/'] text)
  | [] => .nil
  | c :: rest => by
    have hrest := open_replaceAll rest
    by_cases hc : c = '*'
    · subst hc
      by_cases hslash : ['/'] <+: rest
      · obtain ⟨more, rfl⟩ := hslash
        have hnew : Open ['*', '\\', '/'] := by simp [Open]
        rw [Text.replaceAll_match]
        exact hnew.append (open_replaceAll more) (.inl (by decide))
      · rw [Text.replaceAll_noMatch hslash]
        refine List.isChain_cons.mpr ⟨?_, hrest⟩
        rintro d hd ⟨-, rfl⟩
        rw [head_insideComment] at hd
        obtain ⟨more, rfl⟩ := List.head?_eq_some_iff.mp hd
        exact hslash ⟨more, rfl⟩
    · rw [Text.replaceAll_cons_ne hc]
      exact List.isChain_cons.mpr ⟨fun d _ hcd => hc hcd.1, hrest⟩

/-- An escaped text ends no comment. -/
theorem open_insideComment (text : String) : Open (insideComment text).toList := by
  unfold insideComment
  rw [String.toList_ofList]
  exact open_replaceAll text.toList

theorem open_joined {lines : List (List Char)} (h : ∀ line ∈ lines, Open line) :
    Open (Text.joined ['\n'] lines) := by
  have hfeed : Open ['\n'] := .singleton _
  induction lines with
  | nil => exact .nil
  | cons line more ih =>
    rw [List.forall_mem_cons] at h
    cases more with
    | nil => exact h.1
    | cons next more =>
      rw [Text.joined]
      refine (h.1.append hfeed (.inr (by decide))).append (ih h.2) (.inl ?_)
      rw [List.getLast?_concat]
      decide

/-- Lines that end no comment, and a line with the end of one behind something that ends none. -/
theorem joinedBy_toList {lines : List String} (hne : lines ≠ [])
    (h : ∀ line ∈ lines, Open line.toList) {indent : String} (hindent : '*' ∉ indent.toList) :
    ∃ front, Open front ∧
      (joinedBy "\n" (lines ++ [indent ++ " */"])).toList = front ++ ' ' :: commentEnd := by
  have hlines : lines.map (·.toList) ≠ [] := fun e => hne (List.map_eq_nil_iff.mp e)
  have hopen : ∀ line ∈ lines.map (·.toList), Open line := by
    intro line hline
    obtain ⟨text, htext, rfl⟩ := List.mem_map.mp hline
    exact h text htext
  have hfeed : Open ('\n' :: indent.toList) :=
    open_of_notMem (by rw [List.mem_cons, not_or]; exact ⟨by decide, hindent⟩)
  refine ⟨_, (open_joined hopen).append hfeed (.inr (by simp)), ?_⟩
  rw [joinedBy, String.toList_ofList, List.map_append, List.map_singleton]
  refine (Text.joined_concat _ hlines _).trans ?_
  rw [String.toList_append]
  simp [commentEnd]

/-! ## The documentation of functions -/

theorem open_docLine (text : String) : Open (docLine text).toList := by
  have hstar : Open " *".toList := by simp [Open]
  have hfront : Open " * ".toList := by simp [Open]
  unfold docLine
  simp only
  split
  · exact hstar
  · rw [String.toList_append]
    exact hfront.append (open_insideComment text) (.inl (by decide))

theorem descriptionLines_eq (description : Option String) :
    ∃ texts : List String, descriptionLines description = texts.map docLine := by
  unfold descriptionLines
  split
  · exact ⟨[], rfl⟩
  · split
    · exact ⟨[], rfl⟩
    · exact ⟨(Text.lines _).map fun line => String.ofList (Text.trimEnd line), by
        rw [List.map_map]; rfl⟩

/-- Between its ends the documentation of a function is made of lines that are all written alike. -/
theorem docBlock_eq_map (function : ClientFunction) :
    ∃ texts : List String, docBlock function = "/**" :: (texts.map docLine ++ [" */"]) := by
  obtain ⟨texts, htexts⟩ := descriptionLines_eq function.description
  refine ⟨texts ++ function.arguments.map (·.tag) ++ function.payload.toList.map (·.tag) ++
    [function.reply.tag], ?_⟩
  simp [docBlock, htexts, Function.comp_def]

/-- The documentation of a function is lines that end no comment, and the end of one. -/
theorem docBlock_eq (function : ClientFunction) :
    ∃ lines, docBlock function = lines ++ ["" ++ " */"] ∧ lines ≠ [] ∧
      ∀ line ∈ lines, Open line.toList := by
  have hbegin : Open "/**".toList := by simp [Open]
  obtain ⟨texts, htexts⟩ := docBlock_eq_map function
  refine ⟨"/**" :: texts.map docLine, htexts, List.cons_ne_nil _ _, ?_⟩
  rw [List.forall_mem_cons]
  refine ⟨hbegin, fun line hline => ?_⟩
  obtain ⟨text, -, rfl⟩ := List.mem_map.mp hline
  exact open_docLine text

/-! ## Comments of declarations -/

/-- What can stand on a line of a comment: it ends no comment, and it ends no line. -/
def Inner (text : String) : Prop := Open text.toList ∧ '\n' ∉ text.toList

theorem inner_append {first second : String} (hfirst : Inner first) (hsecond : Inner second)
    (h : first.toList.getLast? ≠ some '*' ∨ second.toList.head? ≠ some '/') :
    Inner (first ++ second) := by
  unfold Inner
  rw [String.toList_append, List.mem_append, not_or]
  exact ⟨hfirst.1.append hsecond.1 h, hfirst.2, hsecond.2⟩

/-- Lines of an escaped text, without the blanks at their ends, can stand in a comment. -/
theorem inner_of_mem_lines {text : String} {line : List Char}
    (h : line ∈ Text.lines (insideComment text).toList) :
    Inner (String.ofList (Text.trimEnd line)) := by
  have hline : Open line :=
    List.IsChain.infix (open_insideComment text) (Text.infix_of_mem_lines h)
  have hfront := Text.trimEnd_isPrefix line
  have hopen : Open (Text.trimEnd line) := List.IsChain.infix hline hfront.isInfix
  unfold Inner
  rw [String.toList_ofList]
  exact ⟨hopen, fun hfeed => Text.feed_notMem_of_mem_lines h (hfront.subset hfeed)⟩

/-- How a comment is laid out behind an indentation: not at all, on one line, or on lines of its
own. -/
inductive CommentLines (indent : String) : List String → Prop
  | nothing : CommentLines indent []
  | single {line : String} (h : Inner line) :
    CommentLines indent [indent ++ "/** " ++ line ++ " */"]
  | block {body : List String} (h : ∀ line ∈ body, Inner line) :
    CommentLines indent ((indent ++ "/**") :: (body ++ [indent ++ " */"]))

theorem blank_empty : ∀ c ∈ "".toList, c = ' ' := by simp

theorem blank_tab : ∀ c ∈ tab.toList, c = ' ' := by simp [tab]

/-- Blanks begin no line of a comment that ends it. -/
theorem inner_of_blank {indent : String} (h : ∀ c ∈ indent.toList, c = ' ') :
    Inner indent ∧ indent.toList.getLast? ≠ some '*' := by
  have hnone : ∀ c, c ≠ ' ' → c ∉ indent.toList := fun c hc hmem => hc (h c hmem)
  exact ⟨⟨open_of_notMem (hnone _ (by decide)), hnone _ (by decide)⟩,
    fun e => hnone _ (by decide) (List.mem_of_getLast? e)⟩

theorem commentLines_docComment {indent : String} (h : ∀ c ∈ indent.toList, c = ' ')
    (description : Option String) : CommentLines indent (docComment indent description) := by
  obtain ⟨hindent, hlast⟩ := inner_of_blank h
  unfold docComment
  split
  · exact .nothing
  · rename_i text _
    have hbody : ∀ line ∈ (Text.lines (insideComment (String.ofList text)).toList).map
        (fun line => String.ofList (Text.trimEnd line)), Inner line := by
      intro line hline
      obtain ⟨part, hpart, rfl⟩ := List.mem_map.mp hline
      exact inner_of_mem_lines hpart
    simp only
    split
    · rename_i line hone
      rw [hone, List.forall_mem_singleton] at hbody
      exact .single hbody
    · rename_i body _
      rw [List.singleton_append, List.cons_append]
      refine .block fun line hline => ?_
      obtain ⟨part, hpart, rfl⟩ := List.mem_map.mp hline
      have hstar : Inner " *" := ⟨by simp [Open], by decide⟩
      have hfront : Inner " * " := ⟨by simp [Open], by decide⟩
      split
      · exact inner_append hindent hstar (.inl hlast)
      · exact inner_append (inner_append hindent hfront (.inl hlast)) (hbody part hpart)
          (.inl (by simp))

/-- A comment of a declaration is text that ends no comment, and the end of one. -/
theorem docComment_eq {indent : String} (hindent : ∀ c ∈ indent.toList, c = ' ')
    {description : Option String} (h : docComment indent description ≠ []) :
    ∃ front, Open front ∧
      (joinedBy "\n" (docComment indent description)).toList = front ++ ' ' :: commentEnd := by
  obtain ⟨hinner, hlast⟩ := inner_of_blank hindent
  have hlines := commentLines_docComment hindent description
  generalize docComment indent description = lines at h hlines
  cases hlines with
  | nothing => exact absurd rfl h
  | @single line hline =>
    have hbegin : Open "/** ".toList := by simp [Open]
    refine ⟨indent.toList ++ ("/** ".toList ++ line.toList),
      hinner.1.append (hbegin.append hline.1 (.inl (by decide))) (.inl hlast), ?_⟩
    simp [joinedBy, Text.joined, commentEnd]
  | @block body hbody =>
    have hbegin : Open "/**".toList := by simp [Open]
    have hopen : ∀ line ∈ (indent ++ "/**") :: body, Open line.toList := by
      rw [List.forall_mem_cons, String.toList_append]
      exact ⟨hinner.1.append hbegin (.inl hlast), fun line hline => (hbody line hline).1⟩
    exact joinedBy_toList (List.cons_ne_nil _ _) hopen
      fun hstar => absurd (hindent _ hstar) (by decide)

namespace Declaration

/-- The properties of an interface; an alias has none. -/
def properties (declaration : Declaration) : List DeclaredProperty :=
  match declaration.shape with
  | .interface properties => properties
  | .typeAlias _ => []

/-- The comments of a declaration: its own and those of its properties, as far as there is
something to say. -/
def comments (declaration : Declaration) : List (List String) :=
  (docComment "" declaration.description ::
    declaration.properties.map (docComment tab ·.description)).filter (· ≠ [])

end Declaration

/-- No documentation ends its comment early: that of a function holds the end of a comment at its
own end and nowhere else, and so does every comment of a declaration, also after the line ends
have been unified. -/
theorem comments_close_once :
    (∀ function : ClientFunction,
      ClosesOnce (joinedBy "\n" (docBlock function)) ∧
        ClosesOnce (unifiedLineEnds (joinedBy "\n" (docBlock function)))) ∧
      ∀ declaration : Declaration, ∀ comment ∈ declaration.comments,
        ClosesOnce (joinedBy "\n" comment) ∧
          ClosesOnce (unifiedLineEnds (joinedBy "\n" comment)) := by
  constructor
  · intro function
    obtain ⟨lines, hlines, hne, hopen⟩ := docBlock_eq function
    have hempty : '*' ∉ "".toList := by decide
    obtain ⟨front, hfront, htext⟩ := joinedBy_toList hne hopen hempty
    rw [hlines]
    exact closesOnce_append hfront htext
  · intro declaration comment hcomment
    simp only [Declaration.comments, List.mem_filter, List.mem_cons, List.mem_map,
      decide_eq_true_eq] at hcomment
    obtain ⟨rfl | ⟨property, -, rfl⟩, hne⟩ := hcomment
    · obtain ⟨front, hfront, htext⟩ := docComment_eq blank_empty hne
      exact closesOnce_append hfront htext
    · obtain ⟨front, hfront, htext⟩ := docComment_eq blank_tab hne
      exact closesOnce_append hfront htext

/-- A declaration whose descriptions hold ends of comments, one of them behind a line end. -/
def starred : Declaration :=
  ⟨"Pet", some "* */ all\r\n*\r/ ", .interface [⟨"tag", "string", some "**/"⟩]⟩

theorem comments_close_once_starred :
    starred.comments =
        [["/**", " * * *\\/ all", " * *\r/", " */"], ["  /** **\\/ */"]] ∧
      ClosesOnce (joinedBy "\n" ["/**", " * * *\\/ all", " * *\r/", " */"]) ∧
      ClosesOnce (unifiedLineEnds (joinedBy "\n" ["/**", " * * *\\/ all", " * *\r/", " */"])) := by
  have hcomments : starred.comments =
      [["/**", " * * *\\/ all", " * *\r/", " */"], ["  /** **\\/ */"]] := by decide +kernel
  have hfirst : ["/**", " * * *\\/ all", " * *\r/", " */"] ∈ starred.comments := by
    rw [hcomments]; exact List.mem_cons_self
  exact ⟨hcomments, comments_close_once.2 starred _ hfirst⟩

end OpenApiClient.Client
