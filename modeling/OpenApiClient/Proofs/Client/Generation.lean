import OpenApiClient.Client.Generation
import OpenApiClient.Proofs.Client.Document

/-!
# What a run makes and says

Results:
* `placement_of_mem_grouping`: the functions of the modules are those for operations.
* `modules_generate`: there is one file for every module of a document.
* `Statistics.addWarnings_eq`, `statistics_generate`: the counts as they stand in the end.
* `warnings_generate`: everything that a grouping says is said in the end.
* `nodup_names_of_warnings`: without a warning for a module its functions have different names.
-/
namespace OpenApiClient.Client

open Output

/-! ## Files -/

variable {spell : List Char → List Char} {parse : List Char → Option MediaType}

/-- No module of a document is without functions. -/
theorem functions_ne_nil {document : Document} {module : ClientModule}
    (h : module ∈ (document.grouping spell parse).modules) : module.functions ≠ [] := by
  rw [Document.grouping_eq, Grouping.modules_ofPaths] at h
  exact functions_ne_nil_of_mem_modulesFor h

/-- A function of a module was added for an operation of the document. -/
theorem placement_of_mem_grouping {document : Document} {module : ClientModule}
    (hm : module ∈ (document.grouping spell parse).modules) {function : ClientFunction}
    (hf : function ∈ module.functions) :
    ⟨module.name, function⟩ ∈ document.placements spell parse := by
  rw [Document.grouping_eq, Grouping.modules_ofPaths] at hm
  obtain ⟨name, -, rfl⟩ := List.mem_map.mp hm
  exact mem_functionsFor.mp (mem_of_mem_firstsBy hf)

variable (spell) (parse)

/-- There is one file for every module of a document. -/
theorem modules_generate (document : Document) (preamble : Preamble) (layout : Layout)
    (source : String) :
    (generate spell parse document preamble layout source).modules =
      (document.grouping spell parse).modules.map
        (moduleFile (banner document source) preamble layout) := by
  have hall : ∀ module ∈ (document.grouping spell parse).modules,
      decide (module.functions ≠ []) = true :=
    fun module hm => decide_eq_true (functions_ne_nil hm)
  rw [← List.filter_eq_self.mpr hall]
  unfold generate Document.grouping
  cases document.paths <;> rfl

/-! ## Statistics -/

/-- Warnings are kept in their order, and those that say that a path is left out are counted. -/
theorem Statistics.addWarnings_eq (statistics : Statistics) (warnings : List Warning) :
    statistics.addWarnings warnings =
      { statistics with
          skipped := statistics.skipped + warnings.countP (·.isSkipped)
          warnings := statistics.warnings ++ warnings } := by
  unfold addWarnings
  induction warnings generalizing statistics with
  | nil => simp
  | cons warning rest ih =>
    rw [List.foldl_cons, ih, List.countP_cons]
    unfold addWarning
    cases hskipped : warning.isSkipped with
    | false => simp
    | true => simp; omega

/-- What is said about tables that a document does not have. -/
def missingWarnings (document : Document) : List Warning :=
  (if document.paths.isNone then [.missingPaths] else []) ++
    if document.schemas.isNone then [.missingSchemas] else []

/-- The statistics of a run are those of the modules and of the declarations. -/
theorem statistics_generate (document : Document) (preamble : Preamble) (layout : Layout)
    (source : String) :
    (generate spell parse document preamble layout source).statistics =
      { modules := (document.grouping spell parse).modules.length
        functions := (document.grouping spell parse).size
        duplicates := (document.grouping spell parse).duplicates
        models := (document.schemas.getD .empty).size
        skipped := (document.grouping spell parse).warnings.countP (·.isSkipped)
        warnings := (document.grouping spell parse).warnings ++ missingWarnings document } := by
  unfold generate Document.grouping missingWarnings
  cases document.paths <;> cases document.schemas <;>
    simp [Statistics.addModules, Statistics.addWarnings_eq, Statistics.addWarning,
      Statistics.addModels, Warning.isSkipped, Grouping.size, Keyed.size, declarationsOf,
      Keyed.empty]

variable {spell} {parse}

/-- Everything that the grouping of a document says is said in the end. -/
theorem warnings_generate {document : Document} {warning : Warning}
    (h : warning ∈ (document.grouping spell parse).warnings) (preamble : Preamble)
    (layout : Layout) (source : String) :
    warning ∈ (generate spell parse document preamble layout source).statistics.warnings := by
  rw [statistics_generate]
  exact List.mem_append_left _ h

/-- Without a warning for a module its functions have different names. -/
theorem nodup_names_of_warnings {document : Document} {module : ClientModule}
    (hm : module ∈ (document.grouping spell parse).modules) {preamble : Preamble}
    {layout : Layout} {source : String}
    (h : ∀ name, Warning.duplicateFunctionName module.name name ∉
      (generate spell parse document preamble layout source).statistics.warnings) :
    (module.functions.map (·.name)).Nodup := by
  rw [← repeated_eq_nil_iff, List.eq_nil_iff_forall_not_mem]
  intro name hname
  refine h name (warnings_generate ?_ preamble layout source)
  rw [Document.grouping_eq] at hm ⊢
  have hclash : Warning.duplicateFunctionName module.name name ∈ module.clashes :=
    List.mem_map.mpr ⟨name, hname, rfl⟩
  exact List.mem_append_right _ (List.mem_flatMap.mpr ⟨module, hm, hclash⟩)

end OpenApiClient.Client
