import OpenApiClient.Proofs.Client.Generation
import OpenApiClient.Proofs.Text.LineEnds
import OpenApiClient.Proofs.Text.Lines
import OpenApiClient.Text.Latin

/-!
# The banner of a generated file

Every file begins with six lines of comment that name the title and the version of the document.
Both are put into one line each, but a carriage return or a line separator in the middle of a
line stays where it is, and the comment ends there.

Results:
* `content_of_mem_files`: every file is the banner, a blank line and the rest.
* `lines_unifiedLineEnds`: lines without line ends are the first lines of a file they are
  written to.
* `bannerStays_iff`: exactly when the banner of a file is a comment of six lines.
-/
namespace OpenApiClient.Client

open Output

/-! ## Lines of a file -/

/-- How a file is read: as lines of text, or as code. -/
inductive Reading where
  | text
  | code
deriving DecidableEq, Repr

namespace Reading

/-- The characters at which a line ends. -/
def lineEnds : Reading → List Char
  | text => ['\n', '\r']
  | code => ['\n', '\r', '\u2028', '\u2029']

/-- The lines of a file. -/
def lines (reading : Reading) (content : String) : List (List Char) :=
  content.toList.splitOnP (· ∈ reading.lineEnds)

end Reading

/-- A text without any line end. -/
def OneLine (reading : Reading) (text : String) : Prop :=
  ∀ c ∈ text.toList, c ∉ reading.lineEnds

/-- A text whose lines have no line end between two characters that are not blank. -/
def Unbroken (reading : Reading) (text : String) : Prop :=
  ∀ line ∈ Text.lines text.toList, ∀ c ∈ Text.trim line, c ∉ reading.lineEnds

-- Only the characters of the text are tried; the instance for all characters takes too long.
instance (reading : Reading) (text : String) : Decidable (OneLine reading text) :=
  List.decidableBAll (· ∉ reading.lineEnds) text.toList

instance (reading : Reading) (text : String) : Decidable (Unbroken reading text) :=
  @List.decidableBAll _ (fun line => ∀ c ∈ Text.trim line, c ∉ reading.lineEnds)
    (fun line => List.decidableBAll (· ∉ reading.lineEnds) (Text.trim line))
    (Text.lines text.toList)

theorem codeOf_toList {lines : List String} (h : lines ≠ []) :
    (codeOf lines).toList = (lines.map (·.toList)).flatMap (· ++ ['\n']) := by
  have hlines : lines.map (·.toList) ≠ [] := fun e => h (List.map_eq_nil_iff.mp e)
  rw [codeOf, joinedBy, String.toList_append, String.toList_ofList]
  exact Text.joined_append_separator _ hlines

/-- Lines without line ends are the first lines of a file they are written to. -/
theorem lines_unifiedLineEnds {reading : Reading} {lines : List String} (hne : lines ≠ [])
    (h : ∀ line ∈ lines, OneLine reading line) (body : String) :
    reading.lines (unifiedLineEnds (codeOf lines ++ body)) =
      lines.map (·.toList) ++ reading.lines (unifiedLineEnds body) := by
  have hfeed : '\n' ∈ reading.lineEnds := by cases reading <;> decide
  have hreturn : '\r' ∈ reading.lineEnds := by cases reading <;> decide
  have hnone : ∀ line ∈ lines.map (·.toList), ∀ c ∈ line, c ∉ reading.lineEnds := by
    intro line hline
    obtain ⟨text, htext, rfl⟩ := List.mem_map.mp hline
    exact h text htext
  have hkept : '\r' ∉ (lines.map (·.toList)).flatMap (· ++ ['\n']) := by
    intro hm
    obtain ⟨line, hline, hm⟩ := List.mem_flatMap.mp hm
    rcases List.mem_append.mp hm with hm | hm
    · exact hnone line hline _ hm hreturn
    · cases List.mem_singleton.mp hm
  unfold Reading.lines unifiedLineEnds
  rw [String.toList_ofList, String.toList_ofList, String.toList_append, codeOf_toList hne,
    Text.unifyLineEnds_append hkept]
  exact Text.splitOnP_flatMap (decide_eq_true hfeed)
    (fun line hline c hc => decide_eq_false (hnone line hline c hc)) _

/-! ## The banner -/

/-- The lines of the banner as they are written. -/
def bannerLines (document : Document) (source : String) : List String :=
  ["// AUTO-GENERATED CODE - DO NOT EDIT!",
    "//",
    "// " ++ singleLine document.title,
    "// Source: " ++ source,
    "// Version: " ++ singleLine document.version,
    "// Generated by \x60" ++ generatorName ++ "\x60 v" ++ generatorVersion]

theorem banner_eq (document : Document) (source : String) :
    banner document source = codeOf (bannerLines document source) := rfl

/-- The first six lines of a file are those of the banner, each of them a comment, and a blank
line follows. -/
structure BannerStays (reading : Reading) (document : Document) (source content : String) :
    Prop where
  lines : (reading.lines content).take 6 = (bannerLines document source).map (·.toList)
  comments : ∀ line ∈ (reading.lines content).take 6, ['/', '/'] <+: line
  blank : (reading.lines content)[6]? = some []

theorem comment_of_mem_bannerLines {document : Document} {source : String} :
    ∀ line ∈ bannerLines document source, ['/', '/'] <+: line.toList := by
  simp [bannerLines]

/-- A text is put into one line, unless one of its lines is broken in its middle. -/
theorem oneLine_singleLine_iff {reading : Reading} {text : String} :
    OneLine reading (singleLine text) ↔ Unbroken reading text := by
  unfold OneLine Unbroken singleLine joinedBy
  rw [String.toList_ofList]
  constructor
  · intro h line hline c hc
    have hne : Text.trim line ≠ [] := List.ne_nil_of_mem hc
    have hpart : Text.trim line ∈ ((((Text.lines text.toList).map Text.trim).filter (· ≠ [])).map
        String.ofList).map (·.toList) := by
      simp only [List.mem_map, List.mem_filter]
      exact ⟨_, ⟨Text.trim line, ⟨⟨line, hline, rfl⟩, decide_eq_true hne⟩, rfl⟩,
        String.toList_ofList⟩
    exact h c (Text.mem_joined_of_mem _ hpart hc)
  · intro h c hc
    rcases Text.mem_joined hc with hc | ⟨part, hpart, hc⟩
    · have hspace : c = ' ' := by simpa using hc
      subst hspace
      cases reading <;> decide
    · simp only [List.mem_map, List.mem_filter] at hpart
      obtain ⟨_, ⟨_, ⟨⟨line, hline, rfl⟩, -⟩, rfl⟩, rfl⟩ := hpart
      rw [String.toList_ofList] at hc
      exact h line hline c hc

theorem oneLine_append (reading : Reading) (first second : String) :
    OneLine reading (first ++ second) ↔ OneLine reading first ∧ OneLine reading second := by
  unfold OneLine
  rw [String.toList_append, List.forall_mem_append]

/-- Only the title and the version can break the banner. -/
theorem oneLine_bannerLines_iff {reading : Reading} {document : Document} {source : String}
    (hsource : OneLine reading source) :
    (∀ line ∈ bannerLines document source, OneLine reading line) ↔
      Unbroken reading document.title ∧ Unbroken reading document.version := by
  have hfixed : ∀ text ∈ ["// AUTO-GENERATED CODE - DO NOT EDIT!", "//", "// ", "// Source: ",
      "// Version: ", "// Generated by \x60" ++ generatorName ++ "\x60 v" ++ generatorVersion],
      OneLine reading text := by
    cases reading <;> decide
  simp only [List.forall_mem_cons] at hfixed
  obtain ⟨hedit, hempty, htitle, hfrom, hversion, hgenerator, -⟩ := hfixed
  unfold bannerLines
  simp only [List.forall_mem_cons, oneLine_append reading "// ",
    oneLine_append reading "// Source: ", oneLine_append reading "// Version: ",
    oneLine_singleLine_iff, hedit, hempty, htitle, hfrom, hversion, hgenerator, hsource, true_and]
  simp

/-! ## Files -/

/-- Every file is the banner, a blank line and the rest. -/
theorem content_of_mem_files {spell : List Char → List Char}
    {parse : List Char → Option MediaType} {document : Document} {preamble : Preamble}
    {layout : Layout} {source : String} {file : GeneratedFile}
    (h : file ∈ (generate spell parse document preamble layout source).files) :
    ∃ body, file.content = unifiedLineEnds (banner document source ++ "\n" ++ body) := by
  rcases List.mem_append.mp h with h | h
  · rw [modules_generate] at h
    obtain ⟨module, -, rfl⟩ := List.mem_map.mp h
    refine ⟨preamble.render ++ "\n" ++ module.code, ?_⟩
    simp only [moduleFile, GeneratedFile.ofText, String.append_assoc]
  · obtain ⟨declarations, -, rfl⟩ := Option.map_eq_some_iff.mp (Option.mem_toList.mp h)
    exact ⟨declarationsCode declarations, rfl⟩

/-- A banner that stays has no line end inside its lines. -/
theorem oneLine_of_bannerStays {reading : Reading} {document : Document}
    {source content : String} (h : BannerStays reading document source content) :
    ∀ line ∈ bannerLines document source, OneLine reading line := by
  intro line hline c hc
  have hmem : line.toList ∈ (reading.lines content).take 6 := by
    rw [h.lines]; exact List.mem_map_of_mem hline
  exact of_decide_eq_false (Text.isEnd_of_mem_splitOnP (List.mem_of_mem_take hmem) c hc)

/-- A banner without line ends inside its lines stays, whatever follows it. -/
theorem bannerStays_of_oneLine {reading : Reading} {document : Document} {source : String}
    (h : ∀ line ∈ bannerLines document source, OneLine reading line) (body : String) :
    BannerStays reading document source
      (unifiedLineEnds (banner document source ++ "\n" ++ body)) := by
  have hne : bannerLines document source ≠ [] := List.cons_ne_nil _ _
  have hblank : ∀ line ∈ [""], OneLine reading line := by cases reading <;> decide
  have hlines : reading.lines (unifiedLineEnds (banner document source ++ "\n" ++ body)) =
      (bannerLines document source).map (·.toList) ++
        ([] :: reading.lines (unifiedLineEnds body)) := by
    have hfeed : "\n" = codeOf [""] := by decide
    rw [String.append_assoc, banner_eq, lines_unifiedLineEnds hne h, hfeed,
      lines_unifiedLineEnds (List.cons_ne_nil "" []) hblank, List.map_singleton,
      String.toList_empty, List.singleton_append]
  have hsix : ((bannerLines document source).map (·.toList)).length = 6 := rfl
  refine ⟨?_, ?_, ?_⟩
  · rw [hlines, List.take_left' hsix]
  · rw [hlines, List.take_left' hsix]
    intro line hline
    obtain ⟨text, htext, rfl⟩ := List.mem_map.mp hline
    exact comment_of_mem_bannerLines text htext
  · rw [hlines, List.getElem?_append_right (Nat.le_of_eq hsix), hsix]
    rfl

/-- In every file the banner is a comment of six lines, exactly if no line of the title and of
the version has a line end between two characters that are not blank. -/
theorem bannerStays_iff (spell : List Char → List Char) (parse : List Char → Option MediaType)
    (reading : Reading) (document : Document) (preamble : Preamble) (layout : Layout)
    (source : String) (hsource : OneLine reading source) :
    ∀ file ∈ (generate spell parse document preamble layout source).files,
      BannerStays reading document source file.content ↔
        Unbroken reading document.title ∧ Unbroken reading document.version := by
  intro file hfile
  obtain ⟨body, hbody⟩ := content_of_mem_files hfile
  rw [← oneLine_bannerLines_iff hsource]
  constructor
  · exact oneLine_of_bannerStays
  · intro hone
    rw [hbody]
    exact bannerStays_of_oneLine hone body

/-! ## Titles that keep to the banner and titles that do not -/

/-- A document with a title, one operation and no named schemas. -/
def titled (title : String) : Document :=
  { title := title
    version := "1"
    paths := some (.ofList [("/pets/list", .ofList [(.get, {})])])
    schemas := some .empty }

/-- A title with blank lines, and with carriage returns at the ends of its lines. -/
def weather : Document := titled "\r Weather\r\n\r\nAPI \r"

theorem bannerStays_weather :
    let generated := generate Text.latin MediaType.ofText? weather {} {} "openapi.json"
    OneLine .code "openapi.json" ∧
      ∃ file ∈ generated.files,
        file.name = "pets.server.js" ∧ BannerStays .code weather "openapi.json" file.content := by
  intro generated
  have hsource : OneLine .code "openapi.json" := by decide
  have hunbroken : Unbroken .code weather.title ∧ Unbroken .code weather.version := by
    decide +kernel
  obtain ⟨file, hfile, hname⟩ : ∃ file ∈ generated.files, file.name = "pets.server.js" := by
    decide +kernel
  have hstays := bannerStays_iff Text.latin MediaType.ofText? .code weather {} {} "openapi.json"
    hsource file hfile
  exact ⟨hsource, file, hfile, hname, hstays.mpr hunbroken⟩

/-- A carriage return in a title ends the comment, and what follows it is code. To the language a
line separator does the same. -/
theorem banner_left_by_title :
    let generated := fun title =>
      generate Text.latin MediaType.ofText? (titled title) {} {} "openapi.json"
    (∃ file ∈ (generated "Pets\rstop()").files, file.name = "pets.server.js" ∧
      ¬ BannerStays .text (titled "Pets\rstop()") "openapi.json" file.content) ∧
      ∃ file ∈ (generated "Pets\u2028stop()").files, file.name = "pets.server.js" ∧
        ¬ BannerStays .code (titled "Pets\u2028stop()") "openapi.json" file.content := by
  intro generated
  have hbroken : ∀ {reading title}, ¬ OneLine reading ("// " ++ singleLine title) →
      ∀ content, ¬ BannerStays reading (titled title) "openapi.json" content := by
    intro reading title h content hstays
    have htitle : "// " ++ singleLine title ∈ bannerLines (titled title) "openapi.json" := by
      simp [bannerLines, titled]
    exact h (oneLine_of_bannerStays hstays _ htitle)
  constructor
  · obtain ⟨file, hfile, hname⟩ : ∃ file ∈ (generated "Pets\rstop()").files,
        file.name = "pets.server.js" := by decide +kernel
    exact ⟨file, hfile, hname, hbroken (by decide +kernel) _⟩
  · obtain ⟨file, hfile, hname⟩ : ∃ file ∈ (generated "Pets\u2028stop()").files,
        file.name = "pets.server.js" := by decide +kernel
    exact ⟨file, hfile, hname, hbroken (by decide +kernel) _⟩

end OpenApiClient.Client
