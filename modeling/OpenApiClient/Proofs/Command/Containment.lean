import OpenApiClient.Command.Settings
import OpenApiClient.Proofs.Client.ModuleScope
import OpenApiClient.Proofs.Output.Writing
import OpenApiClient.Text.Latin

/-!
# Where the output goes

The name of a module's file is a path segment, a fixed middle and the extension of the settings;
the name of the file with the declarations is that of the settings. Settings are refused if the
latter is not one part of a path. The extension is only freed of the dots in front, so that a slash
in it stays, and a file may then land outside the output directory.

Results:
* `flatten_segmentChars`: a path segment has no slash.
* `isComponent_moduleFile_iff`: the name of a module's file is one part of a path exactly if the
  extension has no slash.
* `writeEach_eq_withFiles`, `writeFiles_staysInside`: files whose names are single parts of paths
  are written into their directory and nowhere else, also if not all of them can be written.
* `of_ofWishes_eq_ok`: what settings that are not refused are like.
* `output_inside_iff`: exactly when all names are single parts of paths, and that nothing leaves
  the output directory then.
-/

/-! ## Names of modules -/

namespace OpenApiClient.Client

/-- The segments of a path are what stands between its slashes. -/
theorem flatten_segmentChars (path : List Char) :
    (segmentChars path).flatten = path.filter (· ≠ '/') := by
  fun_induction segmentChars path with
  | case1 => rfl
  | case2 rest ih => simpa using ih
  | case3 c hc => simp [hc]
  | case4 c hc more ih => simp [ih, hc]
  | case5 c hc next more hnext ih => rw [Naming.attach_flatten, ih]; simp [hc]

theorem slash_notMem_of_mem_segments {path segment : String} (h : segment ∈ segments path) :
    '/' ∉ segment.toList := by
  obtain ⟨chars, hchars, rfl⟩ := List.mem_map.mp h
  rw [String.toList_ofList]
  intro hslash
  have hmem : '/' ∈ (segmentChars path.toList).flatten :=
    List.mem_flatten.mpr ⟨chars, hchars, hslash⟩
  rw [flatten_segmentChars] at hmem
  exact of_decide_eq_true (List.mem_filter.mp hmem).2 rfl

variable {spell : List Char → List Char} {parse : List Char → Option MediaType}

/-- The module that a path names is its first segment. -/
theorem mem_segments_of_functionOfPath {path module name : String}
    (h : functionOfPath spell path = some (module, name)) : module ∈ segments path := by
  obtain ⟨segment, hsegments, -, -⟩ := functionOfPath_eq_some_iff.mp h
  rw [hsegments]
  exact List.mem_cons_self

/-- A module is named after a path segment. -/
theorem slash_notMem_of_mem_grouping {document : Document} {module : ClientModule}
    (h : module ∈ (document.grouping spell parse).modules) : '/' ∉ module.name.toList := by
  obtain ⟨function, hfunction⟩ := List.exists_mem_of_ne_nil _ (functions_ne_nil h)
  obtain ⟨operation, -, name, hpath, -⟩ :=
    Document.mem_placements.mp (placement_of_mem_grouping h hfunction)
  exact slash_notMem_of_mem_segments (mem_segments_of_functionOfPath hpath)

end OpenApiClient.Client

/-! ## Names of files -/

namespace OpenApiClient.Output

/-- Only dots are taken away. -/
theorem slash_mem_withoutLeadingDots {text : String} :
    '/' ∈ (withoutLeadingDots text).toList ↔ '/' ∈ text.toList := by
  have hdots : '/' ∉ text.toList.takeWhile (· = '.') := fun h =>
    absurd (List.mem_takeWhile_imp h) (by decide)
  have hparts := List.takeWhile_append_dropWhile (p := (· = '.')) (l := text.toList)
  unfold withoutLeadingDots
  rw [String.toList_ofList]
  constructor
  · exact fun h => hparts ▸ List.mem_append_right _ h
  · intro h
    rw [← hparts, List.mem_append] at h
    exact h.resolve_left hdots

/-- The fixed middle of the name of a module's file keeps it from being empty or dots. -/
theorem isComponent_moduleFile_iff {layout : Layout} {module : String}
    (h : '/' ∉ module.toList) :
    IsComponent (layout.moduleFile module) ↔ '/' ∉ layout.extension.toList := by
  have hslash : '/' ∈ (layout.moduleFile module).toList ↔ '/' ∈ layout.extension.toList := by
    unfold Layout.moduleFile
    rw [String.toList_append, String.toList_append, List.mem_append, List.mem_append,
      slash_mem_withoutLeadingDots]
    simp [h]
  have hmiddle : 's' ∈ (layout.moduleFile module).toList := by
    simp [Layout.moduleFile]
  have hne : ∀ name : String, 's' ∉ name.toList → layout.moduleFile module ≠ name :=
    fun name hname e => hname (e ▸ hmiddle)
  constructor
  · exact fun hcomponent hm => hcomponent.no_slash (hslash.mpr hm)
  · exact fun hm => ⟨hne "" (by decide), fun hin => hm (hslash.mp hin), hne "." (by decide),
      hne ".." (by decide)⟩

/-! ## Files that are written -/

open FileTree

/-- Files are written one after the other, up to one that cannot be written. -/
theorem writeEach_eq_withFiles {tree : FileTree} {directory : String} {place : FilePlace}
    {files : List GeneratedFile} (hdirectory : tree.directoryOf? directory = some place)
    (hnames : ∀ file ∈ files, IsComponent file.name) :
    ∃ written, written <+: files ∧ (writeEach directory files tree).1 =
      tree.withFiles place written := by
  induction files generalizing tree with
  | nil => exact ⟨[], List.prefix_rfl, rfl⟩
  | cons file rest ih =>
    rw [List.forall_mem_cons] at hnames
    rw [writeEach_cons]
    cases hwrite : tree.writeFile? (joinPath directory file.name)
        (unifiedLineEnds file.content) with
    | none => exact ⟨[], List.nil_prefix, rfl⟩
    | some next =>
      obtain ⟨hadmits, rfl⟩ := (writeFile?_joinPath_iff hdirectory hnames.1).mp hwrite
      have hthere : (tree.set (place ++ [file.name])
          (.file (unifiedLineEnds file.content))).directoryOf? directory = some place :=
        (directoryOf?_set_file hadmits.no_directory directory).trans hdirectory
      obtain ⟨written, hprefix, hafter⟩ := ih hthere hnames.2
      exact ⟨file :: written, List.cons_prefix_cons.mpr ⟨rfl, hprefix⟩, hafter⟩

/-- What becomes of a tree when files are to be written into a directory, whether or not they can
be: nothing changes but that files stand in the directory under their names, and that missing
directories on the way to it are made. -/
structure StaysInside (tree : FileTree) (directory : String) (files : List GeneratedFile)
    (after : FileTree) : Prop where
  working : after.working = tree.working
  kept : ∀ place, after.node? place = tree.node? place ∨
    (∃ file ∈ files, place = tree.placeOf directory ++ [file.name] ∧
      after.node? place = some (.file (unifiedLineEnds file.content))) ∨
    OnWay (tree.start directory) (pathParts directory) place ∧ tree.node? place = none ∧
      after.node? place = some .directory

/-- Files whose names are single parts of paths are written into their directory and nowhere
else. -/
theorem writeFiles_staysInside (tree : FileTree) (directory : String)
    {files : List GeneratedFile} (hnames : ∀ file ∈ files, IsComponent file.name) :
    StaysInside tree directory files (writeFiles directory files tree).1 := by
  unfold writeFiles
  cases hrepeated : repeatedName? (files.map (·.name)) with
  | some name => exact ⟨rfl, fun _ => .inl rfl⟩
  | none =>
    have hmade := makeDirectory_made tree directory
    rcases hmake : tree.makeDirectory directory with ⟨made, done⟩
    rw [hmake] at hmade
    cases done with
    | false => exact ⟨hmade.working, fun place => (hmade.kept place).imp_right .inr⟩
    | true =>
      obtain ⟨written, hprefix, hafter⟩ :=
        writeEach_eq_withFiles (directoryOf?_makeDirectory hmake) hnames
      have hnodup : (written.map (·.name)).Nodup :=
        (List.Sublist.map (·.name) hprefix.sublist).nodup (nodup_names_of_repeatedName? hrepeated)
      simp only [if_true, hafter]
      refine ⟨(working_withFiles made _ written).trans hmade.working, fun place => ?_⟩
      by_cases hplace : ∃ file ∈ written, place = tree.placeOf directory ++ [file.name]
      · obtain ⟨file, hfile, rfl⟩ := hplace
        exact .inr (.inl ⟨file, hprefix.subset hfile, rfl, node?_withFiles_of_mem hnodup hfile⟩)
      · have hother : ∀ file ∈ written, place ≠ tree.placeOf directory ++ [file.name] :=
          fun file hfile hsame => hplace ⟨file, hfile, hsame⟩
        rw [node?_withFiles_of_notMem hother]
        exact (hmade.kept place).imp_right .inr

end OpenApiClient.Output

/-! ## Settings -/

namespace OpenApiClient.Command

open Client Output

theorem isBareName_iff {name : String} : isBareName name ↔ IsComponent name := by
  unfold isBareName
  simp only [Bool.and_eq_true, decide_eq_true_eq, Bool.not_eq_true', List.contains_eq_mem,
    decide_eq_false_iff_not]
  constructor
  · rintro ⟨⟨⟨hempty, hdot⟩, hdots⟩, hslash⟩
    exact ⟨hempty, hslash, hdot, hdots⟩
  · exact fun h => ⟨⟨⟨h.ne_empty, h.ne_dot⟩, h.ne_dots⟩, h.no_slash⟩

/-- What settings that are not refused are like. -/
theorem of_ofWishes_eq_ok {wishes : Wishes} {settings : Settings}
    (h : Settings.ofWishes wishes = .ok settings) :
    ¬ (wishes.verbose && wishes.quiet) ∧ withoutLeadingDots wishes.extension ≠ "" ∧
      IsComponent wishes.modelsFile ∧ isVariableName wishes.portVariable ∧
      settings =
        { input := wishes.input
          output := wishes.output
          preamble := ⟨wishes.errorHelper, wishes.portVariable, wishes.baseUrl⟩
          layout := ⟨withoutLeadingDots wishes.extension, wishes.modelsFile⟩
          verbose := wishes.verbose
          quiet := wishes.quiet } := by
  unfold Settings.ofWishes at h
  simp only at h
  split at h
  · cases h
  rename_i hboth
  split at h
  · cases h
  rename_i hempty
  split at h
  · cases h
  rename_i hname
  split at h
  · cases h
  rename_i hport
  simp only [Bool.not_eq_true', Bool.not_eq_false] at hname hport
  cases h
  exact ⟨hboth, hempty, isBareName_iff.mp hname, hport, rfl⟩

/-! ## The output directory -/

/-- The names of all files are single parts of paths exactly if the extension that is asked for has
no slash, or there is no module. -/
theorem isComponent_files_iff (spell : List Char → List Char)
    (parse : List Char → Option MediaType) {wishes : Wishes} {settings : Settings}
    (h : Settings.ofWishes wishes = .ok settings) (document : Document) (source : String) :
    (∀ file ∈ (generate spell parse document settings.preamble settings.layout source).files,
        IsComponent file.name) ↔
      '/' ∉ wishes.extension.toList ∨ (document.grouping spell parse).modules = [] := by
  obtain ⟨-, -, hmodels, -, hsettings⟩ := of_ofWishes_eq_ok h
  have hextension : '/' ∈ settings.layout.extension.toList ↔ '/' ∈ wishes.extension.toList := by
    rw [hsettings]
    exact slash_mem_withoutLeadingDots
  have hmodule : ∀ module ∈ (document.grouping spell parse).modules,
      IsComponent (settings.layout.moduleFile module.name) ↔ '/' ∉ wishes.extension.toList := by
    intro module hm
    rw [isComponent_moduleFile_iff (slash_notMem_of_mem_grouping hm), hextension]
  unfold Generated.files
  rw [List.forall_mem_append, modules_generate, List.forall_mem_map]
  have hdeclared : ∀ file ∈
      (generate spell parse document settings.preamble settings.layout source).models.toList,
      IsComponent file.name := by
    intro file hfile
    obtain ⟨declarations, -, rfl⟩ := Option.map_eq_some_iff.mp (Option.mem_toList.mp hfile)
    rw [hsettings]
    exact hmodels
  constructor
  · rintro ⟨hall, -⟩
    by_cases hslash : '/' ∈ wishes.extension.toList
    · refine .inr (List.eq_nil_iff_forall_not_mem.mpr fun module hm => ?_)
      exact (hmodule module hm).mp (hall module hm) hslash
    · exact .inl hslash
  · intro hnone
    refine ⟨fun module hm => (hmodule module hm).mpr fun hslash => ?_, hdeclared⟩
    rcases hnone with hnone | hnone
    · exact hnone hslash
    · rw [hnone] at hm
      cases hm

/-- For settings that are not refused, every file has a name that is one part of a path, exactly if
the extension that is asked for has no slash or there is no module. Then the files of a run are
written into the output directory and nowhere else. -/
theorem output_inside_iff (spell : List Char → List Char) (parse : List Char → Option MediaType)
    {wishes : Wishes} {settings : Settings} (h : Settings.ofWishes wishes = .ok settings)
    (document : Document) (source : String) :
    let modules := (document.grouping spell parse).modules
    let files := (generate spell parse document settings.preamble settings.layout source).files
    ((∀ file ∈ files, IsComponent file.name) ↔
      '/' ∉ wishes.extension.toList ∨ modules = []) ∧
    ('/' ∉ wishes.extension.toList ∨ modules = [] → ∀ tree,
      StaysInside tree settings.output files (writeFiles settings.output files tree).1) := by
  intro modules files
  have hnames := isComponent_files_iff spell parse h document source
  exact ⟨hnames, fun hslash tree => writeFiles_staysInside tree _ (hnames.mpr hslash)⟩

/-! ## Output that stays and output that leaves -/

/-- A working directory with an output directory in which there is a directory already. -/
def blocked : FileTree :=
  { nodes := .ofList [(["home"], .directory), (["home", "out"], .directory),
      (["home", "out", "pets.server.js"], .directory)]
    working := ["home"] }

/-- What is made for one operation. -/
def generatedPets (settings : Settings) : Generated :=
  generate Text.latin MediaType.ofText? (onePath "/pets/list") settings.preamble settings.layout
    "api.json"

/-- The files for one operation. -/
def petFiles (settings : Settings) : List GeneratedFile := (generatedPets settings).files

theorem output_inside_pets :
    ∃ settings, Settings.ofWishes { input := "api.json", output := "out", extension := ".mjs" } =
        .ok settings ∧
      (∀ file ∈ petFiles settings, IsComponent file.name) ∧
      StaysInside blocked settings.output (petFiles settings)
        (writeFiles settings.output (petFiles settings) blocked).1 := by
  obtain ⟨settings, hsettings⟩ : ∃ settings, Settings.ofWishes
      { input := "api.json", output := "out", extension := ".mjs" } = .ok settings := ⟨_, rfl⟩
  have hslash : '/' ∉ ".mjs".toList := by decide
  obtain ⟨hnames, hinside⟩ := output_inside_iff Text.latin MediaType.ofText? hsettings
    (onePath "/pets/list") "api.json"
  exact ⟨settings, hsettings, hnames.mpr (.inl hslash), hinside (.inl hslash) blocked⟩

/-- A slash in the extension is accepted, and the file of a module then stands beside the output
directory, if a directory has its name up to the slash. -/
theorem output_not_always_inside :
    ∃ settings, Settings.ofWishes
        { input := "api.json", output := "out", extension := "js/../../up" } = .ok settings ∧
      (∃ file ∈ petFiles settings, ¬ IsComponent file.name) ∧
      (writeFiles settings.output (petFiles settings) blocked).2 =
        .ok ["out/pets.server.js/../../up"] ∧
      ¬ StaysInside blocked settings.output (petFiles settings)
        (writeFiles settings.output (petFiles settings) blocked).1 := by
  refine ⟨_, rfl, ?_, ?_, ?_⟩
  · decide +kernel
  · decide +kernel
  · intro hstays
    rcases hstays.kept ["home", "up"] with hsame | ⟨file, -, hplace, -⟩ | ⟨-, -, hdirectory⟩
    · revert hsame
      decide +kernel
    · have hout : blocked.placeOf "out" = ["home", "out"] := by decide +kernel
      rw [hout] at hplace
      simp at hplace
    · revert hdirectory
      decide +kernel

end OpenApiClient.Command
