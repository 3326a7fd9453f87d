import OpenApiClient.Command.Settings
import OpenApiClient.Proofs.Client.Generation
import OpenApiClient.Proofs.Naming.Identifier
import OpenApiClient.Text.Latin

/-!
# The names at the top of a module

A module file declares the function that words an error, the constants of its preamble and its
functions. Nothing keeps these apart: a function may get the name of the import or of something
that the bodies call, and the name of the port is taken as it is given.

Results:
* `render_eq`: the preamble declares the import and its constants, nothing else.
* `functionName_of_mem_grouping`: every function of a module is named after a path segment.
* `moduleScope_sound_iff`: exactly when the names at the top of a module file are sound.
-/
namespace OpenApiClient

/-! ## Declared names -/

namespace Output.Preamble

/-- The constants of the preamble with the code of their values. -/
def constants (preamble : Preamble) : List (String × String) :=
  match preamble.baseUrl with
  | some baseUrl => [("BASE_URL", stringLiteral (withoutTrailingSlashes baseUrl))]
  | none =>
    [(preamble.portVariable, "process.env[" ++ stringLiteral preamble.portVariable ++ "]"),
      ("BASE_URL", "\x60http://localhost:$\x7b" ++ preamble.portVariable ++ "\x7d\x60")]

/-- The name of the imported function. -/
def importedName : String := "extractErrorMessage"

/-- The names that the preamble declares. -/
def declaredNames (preamble : Preamble) : List String :=
  importedName :: preamble.constants.map (·.1)

/-- The preamble is its import and one line for each constant. -/
theorem render_eq (preamble : Preamble) :
    preamble.render =
      "import " ++ importedName ++ " from " ++ stringLiteral preamble.errorHelper ++ ";\n\n" ++
        String.join (preamble.constants.map fun (name, value) =>
          "const " ++ name ++ " = " ++ value ++ ";\n") := by
  unfold render importLine baseLines constants
  rw [← String.toList_inj]
  cases preamble.baseUrl <;> simp [String.join, importedName]

end Output.Preamble

namespace Client

open Output

/-- The names at the top of the file for a module. -/
def topLevelNames (preamble : Preamble) (module : ClientModule) : List String :=
  preamble.declaredNames ++ module.functions.map (·.name)

/-- The names at the top of a module file are different from each other, the language allows
them, and no function takes the name of something that the bodies use. -/
structure SoundScope (preamble : Preamble) (module : ClientModule) : Prop where
  distinct : (topLevelNames preamble module).Nodup
  allowed : ∀ name ∈ topLevelNames preamble module, name ∉ Naming.reservedWords
  visible : ∀ function ∈ module.functions, function.name ∉ bodyGlobals

/-! ## Names of functions -/

variable {spell : List Char → List Char} {parse : List Char → Option MediaType}

/-- Every function of a module is named after a path segment. -/
theorem functionName_of_mem_grouping {document : Document} {module : ClientModule}
    (hm : module ∈ (document.grouping spell parse).modules) {function : ClientFunction}
    (hf : function ∈ module.functions) :
    ∃ segment, function.name = Naming.functionNameBy spell segment ∧ function.name ≠ "" := by
  obtain ⟨operation, -, name, hpath, hof⟩ :=
    Document.mem_placements.mp (placement_of_mem_grouping hm hf)
  simp only at hof
  have hname : function.name = name := by rw [hof]; rfl
  obtain ⟨segment, -, hspelt, hne⟩ := functionOfPath_eq_some_iff.mp hpath
  exact ⟨segment, hname.trans hspelt.symm, hname ▸ hne⟩

/-- A name of a function is none that starts with a capital. -/
theorem functionNameBy_ne_of_head {segment name : String} {c : Char}
    (hc : name.toList.head? = some c) (hupper : c.isUpper) :
    Naming.functionNameBy spell segment ≠ name := by
  intro e
  rw [← e] at hc
  rcases Naming.head_functionNameBy hc with h | h
  · simp only [Char.isLower, Char.isUpper, Bool.and_eq_true, decide_eq_true_eq,
      UInt32.le_iff_toNat_le] at h hupper
    simp at h hupper; omega
  · subst h; cases hupper

theorem functionNameBy_ne_baseUrl (segment : String) :
    Naming.functionNameBy spell segment ≠ "BASE_URL" :=
  functionNameBy_ne_of_head (c := 'B') (by decide) (by decide)

/-! ## Sound scopes -/

/-- Names that the bodies of functions use and that a path segment can lead to. The others start
with a capital. -/
def reachableGlobals : List String := ["encodeURIComponent", "extractErrorMessage", "fetch"]

theorem functionNameBy_mem_bodyGlobals_iff {segment : String} :
    Naming.functionNameBy spell segment ∈ bodyGlobals ↔
      Naming.functionNameBy spell segment ∈ reachableGlobals := by
  have hjson : Naming.functionNameBy spell segment ≠ "JSON" :=
    functionNameBy_ne_of_head (c := 'J') (by decide) (by decide)
  have hparams : Naming.functionNameBy spell segment ≠ "URLSearchParams" :=
    functionNameBy_ne_of_head (c := 'U') (by decide) (by decide)
  simp only [bodyGlobals, reachableGlobals, List.mem_cons, functionNameBy_ne_baseUrl, hjson,
    hparams, false_or]

/-- The port is declared under a name of its own, if it is declared. -/
def PortFits (preamble : Preamble) (module : ClientModule) : Prop :=
  preamble.baseUrl = none →
    preamble.portVariable ∉ Naming.reservedWords ∧
      preamble.portVariable ∉ [Preamble.importedName, "BASE_URL"] ∧
      ∀ function ∈ module.functions, function.name ≠ preamble.portVariable

/-- The names of a preamble by itself are sound exactly if that of the port is. -/
theorem nodup_declaredNames_iff {preamble : Preamble} :
    preamble.declaredNames.Nodup ↔ (preamble.baseUrl = none →
      preamble.portVariable ∉ [Preamble.importedName, "BASE_URL"]) := by
  unfold Preamble.declaredNames Preamble.constants
  cases preamble.baseUrl with
  | none => simp [Preamble.importedName, eq_comm]
  | some baseUrl => simp [Preamble.importedName]

theorem mem_declaredNames_iff {preamble : Preamble} {name : String} :
    name ∈ preamble.declaredNames ↔
      name = Preamble.importedName ∨ name = "BASE_URL" ∨
        (preamble.baseUrl = none ∧ name = preamble.portVariable) := by
  unfold Preamble.declaredNames Preamble.constants
  cases preamble.baseUrl with
  | none => simp [or_comm]
  | some baseUrl => simp

/-- In a sound scope the port has a name of its own. -/
theorem SoundScope.portFits {preamble : Preamble} {module : ClientModule}
    (h : SoundScope preamble module) : PortFits preamble module := by
  intro hbase
  have hnodup := h.distinct
  rw [topLevelNames, List.nodup_append] at hnodup
  have hport : preamble.portVariable ∈ preamble.declaredNames :=
    mem_declaredNames_iff.mpr (.inr (.inr ⟨hbase, rfl⟩))
  refine ⟨h.allowed _ (List.mem_append_left _ hport), nodup_declaredNames_iff.mp hnodup.1 hbase, ?_⟩
  intro function hf e
  exact hnodup.2.2 _ hport _ (List.mem_map_of_mem hf) e.symm

section

variable {preamble : Preamble} {module : ClientModule}

/-- No name that stems from a path segment is one of the preamble, apart from the import and the
port. -/
theorem nodup_topLevelNames (hdistinct : (module.functions.map (·.name)).Nodup)
    (hnames : ∀ function ∈ module.functions, ∃ segment,
      function.name = Naming.functionNameBy spell segment)
    (hreach : ∀ function ∈ module.functions, function.name ∉ reachableGlobals)
    (hport : PortFits preamble module) : (topLevelNames preamble module).Nodup := by
  rw [topLevelNames, List.nodup_append]
  refine ⟨nodup_declaredNames_iff.mpr fun hbase => (hport hbase).2.1, hdistinct, ?_⟩
  intro name hdeclared other hother e
  obtain ⟨function, hf, rfl⟩ := List.mem_map.mp hother
  obtain ⟨segment, hname⟩ := hnames function hf
  rw [e, mem_declaredNames_iff] at hdeclared
  rcases hdeclared with himport | hbase | ⟨hbase, hvariable⟩
  · exact hreach function hf (by rw [himport]; decide)
  · exact functionNameBy_ne_baseUrl segment (hname ▸ hbase)
  · exact (hport hbase).2.2 function hf hvariable

theorem notMem_reservedWords_of_topLevelNames
    (hnames : ∀ function ∈ module.functions, ∃ segment,
      function.name = Naming.functionNameBy spell segment)
    (hport : PortFits preamble module) :
    ∀ name ∈ topLevelNames preamble module, name ∉ Naming.reservedWords := by
  intro name hm
  rcases List.mem_append.mp hm with hdeclared | hfunction
  · rcases mem_declaredNames_iff.mp hdeclared with rfl | rfl | ⟨hbase, rfl⟩
    · decide +kernel
    · decide +kernel
    · exact (hport hbase).1
  · obtain ⟨function, hf, rfl⟩ := List.mem_map.mp hfunction
    obtain ⟨segment, hname⟩ := hnames function hf
    rw [hname]
    exact Naming.functionNameBy_notMem_reservedWords spell segment

/-- What keeps a scope sound once its functions have different names that stem from path
segments: no function takes a name that the bodies use, and the port has a name of its own. -/
theorem soundScope_iff (hdistinct : (module.functions.map (·.name)).Nodup)
    (hnames : ∀ function ∈ module.functions, ∃ segment,
      function.name = Naming.functionNameBy spell segment) :
    SoundScope preamble module ↔
      (∀ function ∈ module.functions, function.name ∉ reachableGlobals) ∧
        PortFits preamble module := by
  have hvisible : ∀ function ∈ module.functions,
      function.name ∈ bodyGlobals ↔ function.name ∈ reachableGlobals := by
    intro function hf
    obtain ⟨segment, hname⟩ := hnames function hf
    rw [hname, functionNameBy_mem_bodyGlobals_iff]
  constructor
  · intro hsound
    exact ⟨fun function hf hm => hsound.visible function hf ((hvisible function hf).mpr hm),
      hsound.portFits⟩
  · rintro ⟨hreach, hport⟩
    exact ⟨nodup_topLevelNames hdistinct hnames hreach hport,
      notMem_reservedWords_of_topLevelNames hnames hport,
      fun function hf hm => hreach function hf ((hvisible function hf).mp hm)⟩

end

/-- Every module file is that of a module. Without a warning that the module exports a name more
than once, its scope is sound exactly if no path of it leads to a name that the bodies use and
the port has a name of its own. -/
theorem moduleScope_sound_iff (spell : List Char → List Char)
    (parse : List Char → Option MediaType) (document : Document) (preamble : Preamble)
    (layout : Layout) (source : String) :
    ∀ file ∈ (generate spell parse document preamble layout source).modules,
      ∃ module ∈ (document.grouping spell parse).modules,
        file = moduleFile (banner document source) preamble layout module ∧
          ((∀ name, Warning.duplicateFunctionName module.name name ∉
              (generate spell parse document preamble layout source).statistics.warnings) →
            (SoundScope preamble module ↔
              (∀ function ∈ module.functions, function.name ∉ reachableGlobals) ∧
                PortFits preamble module)) := by
  intro file hfile
  rw [modules_generate] at hfile
  obtain ⟨module, hm, rfl⟩ := List.mem_map.mp hfile
  refine ⟨module, hm, rfl, fun hunique => ?_⟩
  have hnames : ∀ function ∈ module.functions, ∃ segment,
      function.name = Naming.functionNameBy spell segment := by
    intro function hf
    obtain ⟨segment, hname, -⟩ := functionName_of_mem_grouping hm hf
    exact ⟨segment, hname⟩
  exact soundScope_iff (nodup_names_of_warnings hm hunique) hnames

/-! ## Scopes that are sound and scopes that are not -/

/-- One operation on one path. -/
def onePath (path : String) : Document :=
  { paths := some (.ofList [(path, .ofList [(.get, {})])]) }

/-- The module for one operation on one path. -/
def oneFunction (module name path : String) : ClientModule :=
  ⟨module, [.ofOperation Text.latin MediaType.ofText? name .get path {}]⟩

theorem moduleScope_sound_pets :
    oneFunction "pets" "list" "/pets/list" ∈
        ((onePath "/pets/list").grouping Text.latin MediaType.ofText?).modules ∧
      SoundScope {} (oneFunction "pets" "list" "/pets/list") := by
  have hmodules : ((onePath "/pets/list").grouping Text.latin MediaType.ofText?).modules =
      [oneFunction "pets" "list" "/pets/list"] := by decide +kernel
  have hwarnings : (generate Text.latin MediaType.ofText? (onePath "/pets/list") {} {}
      "openapi.json").statistics.warnings = [.missingSchemas] := by decide +kernel
  have hfile := modules_generate Text.latin MediaType.ofText? (onePath "/pets/list") {} {}
    "openapi.json"
  rw [hmodules, List.map_singleton] at hfile
  obtain ⟨module, hm, -, hsound⟩ := moduleScope_sound_iff Text.latin MediaType.ofText?
    (onePath "/pets/list") {} {} "openapi.json" _ (by rw [hfile]; exact List.mem_singleton_self _)
  rw [hmodules, List.mem_singleton] at hm
  subst hm
  refine ⟨by rw [hmodules]; exact List.mem_singleton_self _, (hsound ?_).mpr ⟨?_, ?_⟩⟩
  · rw [hwarnings]; simp
  · decide
  · exact fun _ => by decide +kernel

/-- A module of the document is not sound, and no warning says so. -/
def BrokenSilently (document : Document) (settings : Command.Settings) (source : String) : Prop :=
  let generated := generate Text.latin MediaType.ofText? document settings.preamble
    settings.layout source
  ∃ module ∈ (document.grouping Text.latin MediaType.ofText?).modules,
    (∀ name, Warning.duplicateFunctionName module.name name ∉ generated.statistics.warnings) ∧
      ¬ SoundScope settings.preamble module

/-- A function that calls itself where it means to send a request, and a port whose declaration
the language forbids. -/
theorem scope_not_always_sound :
    (∃ settings, Command.Settings.ofWishes { input := "openapi.json", output := "out" } =
        .ok settings ∧ BrokenSilently (onePath "/net/fetch") settings "openapi.json") ∧
      ∃ settings, Command.Settings.ofWishes
          { input := "openapi.json", output := "out", portVariable := "class" } = .ok settings ∧
        BrokenSilently (onePath "/pets/list") settings "openapi.json" := by
  constructor
  · refine ⟨_, rfl, oneFunction "net" "fetch" "/net/fetch", by decide +kernel, ?_, ?_⟩
    · rw [show (generate _ _ (onePath "/net/fetch") _ _ "openapi.json").statistics.warnings =
        [.missingSchemas] by decide +kernel]
      simp
    · exact fun hsound => hsound.visible _ (List.mem_singleton_self _) (by decide)
  · refine ⟨_, rfl, oneFunction "pets" "list" "/pets/list", by decide +kernel, ?_, ?_⟩
    · rw [show (generate _ _ (onePath "/pets/list") _ _ "openapi.json").statistics.warnings =
        [.missingSchemas] by decide +kernel]
      simp
    · exact fun hsound => hsound.allowed "class" (by decide) (by decide)

end Client

end OpenApiClient
