import OpenApiClient.Proofs.Client.Generation
import OpenApiClient.Text.Latin

/-!
# What the statistics of a run count

The counts that a run reports are kept while the run goes on. In the end they are what one would
count in the document and in the files: nothing is counted twice and nothing is forgotten, not
even a path without operations.

Results:
* `size_grouping`: there is one function for every operation on a path that names one.
* `leftOut_ofPaths`: the paths that are said to be left out are those that name no function.
* `leftOut_generate`: and the whole run says so of no other path.
* `statistics_account`: all counts of a run.
-/
namespace OpenApiClient.Client

open Output

variable (spell : List Char → List Char) (parse : List Char → Option MediaType)

/-! ## Functions -/

/-- As many functions are to be added as there are operations on paths that name a function. -/
theorem length_placements_document (document : Document) :
    (document.placements spell parse).length =
      document.operations.countP fun operation => NamesFunction spell operation.path := by
  unfold Document.placements allPlacements
  rw [Document.operations_eq, List.length_flatMap, List.countP_flatMap]
  congr 1
  refine List.map_congr_left fun entry _ => ?_
  obtain ⟨path, item⟩ := entry
  rw [Function.comp_apply, length_placements, List.countP_map]
  split
  · rename_i hname
    refine (List.countP_eq_length.mpr fun operation _ => ?_).symm
    exact decide_eq_true hname
  · rename_i hname
    refine (List.countP_eq_zero.mpr fun operation _ => ?_).symm
    simpa using hname

/-- There is one function for every operation on a path that names one. -/
theorem size_grouping {document : Document}
    (h : ∀ placement ∈ document.placements spell parse, placement.function.Addressable) :
    (document.grouping spell parse).size =
      document.operations.countP fun operation => NamesFunction spell operation.path := by
  have hkept := Grouping.size_ofPaths spell parse (document.paths.getD .empty)
  rw [← Document.grouping_eq, duplicates_grouping h, Nat.add_zero] at hkept
  exact hkept.trans (length_placements_document spell parse document)

/-! ## Paths that are left out -/

/-- The path of which a warning says that it is left out. -/
def Warning.leftOut? : Warning → Option String
  | skippedPath path _ => some path
  | emptyFunctionName path _ => some path
  | _ => none

theorem countP_isSkipped (warnings : List Warning) :
    warnings.countP (·.isSkipped) = (warnings.filterMap (·.leftOut?)).length := by
  have hskipped : ∀ warning : Warning, warning.isSkipped = warning.leftOut?.isSome := by
    intro warning
    cases warning <;> rfl
  rw [List.length_filterMap_eq_countP]
  simp only [hskipped]

theorem countP_leftOut (warnings : List Warning) (path : String) :
    warnings.countP (·.leftOut? = some path) =
      (warnings.filterMap (·.leftOut?)).count path := by
  rw [List.count_filterMap]
  refine List.countP_congr fun warning _ => ?_
  rw [decide_eq_true_eq, beq_iff_eq]

/-- A path is said to be left out if it names no function. -/
theorem leftOut_rejection (path : String) :
    (rejection spell path).toList.filterMap (·.leftOut?) =
      if NamesFunction spell path then [] else [path] := by
  simp only [← rejection_eq_none_iff_names]
  unfold rejection
  cases splitPath path with
  | none => rfl
  | some names =>
    by_cases h : Naming.functionNameBy spell names.2 = "" <;> simp [h, Warning.leftOut?]

/-- The paths of a table that are said to be left out are those that name no function, each once
and in their order. Names that clash leave no path out. -/
theorem leftOut_ofPaths (paths : Keyed String PathItem) :
    (Grouping.ofPaths spell parse paths).warnings.filterMap (·.leftOut?) =
      paths.keys.filter fun path => ¬ NamesFunction spell path := by
  have hclashes : ∀ modules : List ClientModule,
      (modules.flatMap (·.clashes)).filterMap (·.leftOut?) = [] := by
    intro modules
    rw [List.filterMap_eq_nil_iff]
    intro warning hwarning
    obtain ⟨module, -, hclash⟩ := List.mem_flatMap.mp hwarning
    obtain ⟨name, -, rfl⟩ := List.mem_map.mp hclash
    rfl
  rw [Grouping.warnings_ofPaths, List.filterMap_append, hclashes, List.append_nil]
  unfold Keyed.keys
  induction paths.entries with
  | nil => rfl
  | cons entry rest ih =>
    rw [List.flatMap_cons, List.filterMap_append, ih, leftOut_rejection, List.map_cons,
      List.filter_cons]
    by_cases hname : NamesFunction spell entry.1 <;> simp [hname]

/-! ## Counts -/

/-- The counts of a run are those of its files and of the document. -/
structure Accounts (document : Document) (generated : Generated) : Prop where
  modules : generated.statistics.modules = generated.modules.length
  functions : generated.statistics.functions =
    document.operations.countP fun operation => NamesFunction spell operation.path
  duplicates : generated.statistics.duplicates = 0
  models : generated.statistics.models = (document.schemas.getD .empty).size
  skipped : generated.statistics.skipped =
    (document.paths.getD .empty).keys.countP fun path => ¬ NamesFunction spell path
  warned : generated.statistics.skipped =
    generated.statistics.warnings.countP (·.isSkipped)
  /-- One warning for each path that is left out, and no warning for any other path. -/
  warned_once : ∀ path ∈ (document.paths.getD .empty).keys,
    generated.statistics.warnings.countP (·.leftOut? = some path) =
      if NamesFunction spell path then 0 else 1

/-- A run says of exactly those paths that they are left out that name no function. -/
theorem leftOut_generate (document : Document) (preamble : Preamble) (layout : Layout)
    (source : String) :
    (generate spell parse document preamble layout source).statistics.warnings.filterMap
        (·.leftOut?) =
      (document.paths.getD .empty).keys.filter fun path => ¬ NamesFunction spell path := by
  have hmissing : (missingWarnings document).filterMap (·.leftOut?) = [] := by
    unfold missingWarnings
    cases document.paths <;> cases document.schemas <;> rfl
  rw [statistics_generate, List.filterMap_append, hmissing, List.append_nil,
    Document.grouping_eq, leftOut_ofPaths]

/-- For every document and all options, and for every spelling of names, the statistics of a run
account for what it has made and for what it has left out. The assumption is that no text of the
functions is 2^64 bytes long or longer, as no text in memory is. -/
theorem statistics_account (document : Document) (preamble : Preamble) (layout : Layout)
    (source : String)
    (h : ∀ placement ∈ document.placements spell parse, placement.function.Addressable) :
    Accounts spell document (generate spell parse document preamble layout source) := by
  have hleft := leftOut_generate spell parse document preamble layout source
  have hskipped : (generate spell parse document preamble layout source).statistics.skipped =
      (document.paths.getD .empty).keys.countP fun path => ¬ NamesFunction spell path := by
    rw [statistics_generate]
    simp only
    rw [countP_isSkipped, Document.grouping_eq, leftOut_ofPaths, ← List.countP_eq_length_filter]
  constructor
  · rw [statistics_generate, modules_generate, List.length_map]
  · rw [statistics_generate]
    exact size_grouping spell parse h
  · rw [statistics_generate]
    exact duplicates_grouping h
  · rw [statistics_generate]
  · exact hskipped
  · rw [hskipped, countP_isSkipped, hleft, List.countP_eq_length_filter]
  · intro path hpath
    rw [countP_leftOut, hleft]
    split
    · rename_i hname
      refine List.count_eq_zero.mpr fun hmem => ?_
      exact of_decide_eq_true (List.mem_filter.mp hmem).2 hname
    · rename_i hname
      have hnodup : (document.paths.getD .empty).keys.Nodup :=
        (document.paths.getD .empty).nodup_keys
      rw [List.count_filter (by simpa using hname)]
      exact List.count_eq_one_of_mem hnodup hpath

/-- Two modules, two operations on one path, a path without operations that names no function,
one of which nothing is left as a name, and one schema. -/
def counted : Document :=
  { paths := some (.ofList [("/pets/list", .ofList [(.get, {}), (.post, {})]),
      ("/health", .empty), ("/pets/!!!", .ofList [(.get, {})]),
      ("/shop/orders", .ofList [(.get, {})]), ("/shop/carts", .empty)])
    schemas := some (.ofList [("Pet", .reference "Animal")]) }

theorem statistics_account_counted :
    let placements := counted.placements Text.latin MediaType.ofText?
    let generated := generate Text.latin MediaType.ofText? counted {} {} "api.json"
    (∀ placement ∈ placements, placement.function.Addressable) ∧
      Accounts Text.latin counted generated ∧
      generated.statistics =
        { modules := 2, functions := 3, duplicates := 0, models := 1, skipped := 2
          warnings := [.skippedPath "/health" 1, .emptyFunctionName "/pets/!!!" "!!!",
            .duplicateFunctionName "pets" "list"] } := by
  intro placements generated
  have haddressable : ∀ placement ∈ placements, placement.function.Addressable := by
    decide +kernel
  have haccount := statistics_account Text.latin MediaType.ofText? counted {} {} "api.json"
    haddressable
  exact ⟨haddressable, haccount, by unfold generated; rw [statistics_generate]; decide +kernel⟩

end OpenApiClient.Client
