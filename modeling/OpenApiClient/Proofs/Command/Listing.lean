import OpenApiClient.Command.Run
import OpenApiClient.Proofs.Client.Document
import OpenApiClient.Proofs.Naming.Identifier
import OpenApiClient.Text.Latin

/-!
# The list of operations and the generated functions

The list names a function for each operation on its own; the generator puts functions into
modules and leaves out those that a module has. The two agree.

Results:
* `rows_not_skipped`: the rows with a function are those of the functions to be added.
* `generated_as_listed`: the rows with a function, module by module, are the generated functions.
-/
namespace OpenApiClient.Command

open Client

/-! ## Rows -/

/-- The row of a function in a module. -/
def OperationRow.ofFunction (module : String) (function : ClientFunction) : OperationRow :=
  ⟨function.name, module, function.method.token, function.path⟩

/-- Rows module by module: the modules in the order in which they first occur, the rows of each
in their order. -/
def byModule (rows : List OperationRow) : List (String × List OperationRow) :=
  (rows.map (·.module)).eraseDups.map fun module =>
    (module, rows.filter (·.module = module))

variable {spell : List Char → List Char} {parse : List Char → Option MediaType}

/-- No function has the name that marks a row without a function. -/
theorem functionOfPath_ne_skippedMark {path module name : String}
    (h : functionOfPath spell path = some (module, name)) : name ≠ skippedMark := by
  obtain ⟨segment, -, rfl, -⟩ := functionOfPath_eq_some_iff.mp h
  intro e
  have hchar : Naming.NameChar '(' :=
    Naming.functionNameBy_chars spell segment '(' (by rw [e]; decide)
  exact absurd hchar (by unfold Naming.NameChar; decide)

theorem isSkipped_iff {operation : PlacedOperation} :
    (OperationRow.ofOperation spell operation).isSkipped ↔
      functionOfPath spell operation.path = none := by
  unfold OperationRow.isSkipped OperationRow.ofOperation
  cases h : functionOfPath spell operation.path with
  | none => simp
  | some names => simpa using functionOfPath_ne_skippedMark h

variable (spell) (parse)

/-- Either all rows of a path are marked or none is. -/
theorem rows_of_path (path : String) (item : PathItem) :
    ((item.entries.map fun (method, operation) =>
        (⟨path, method, operation⟩ : PlacedOperation)).map (OperationRow.ofOperation spell)).filter
          (!·.isSkipped) =
      (placements spell parse path item).map fun placement =>
        OperationRow.ofFunction placement.module placement.function := by
  have hskipped : ∀ entry : Method × Operation,
      (OperationRow.ofOperation spell ⟨path, entry.1, entry.2⟩).isSkipped ↔
        functionOfPath spell path = none :=
    fun _ => isSkipped_iff
  unfold placements
  rw [List.map_map, List.filter_map]
  cases hpath : functionOfPath spell path with
  | none =>
    rw [List.filter_eq_nil_iff.mpr]
    · rfl
    · intro entry _
      simp [(hskipped entry).mpr hpath]
  | some names =>
    rw [List.filter_eq_self.mpr]
    · simp only [List.map_map]
      refine List.map_congr_left fun entry _ => ?_
      simp [OperationRow.ofOperation, OperationRow.ofFunction, hpath, ClientFunction.ofOperation]
    · intro entry _
      have hrow : ¬ (OperationRow.ofOperation spell ⟨path, entry.1, entry.2⟩).isSkipped = true := by
        rw [hskipped, hpath]; exact Option.some_ne_none _
      simpa using hrow

/-- The rows with a function are those of the functions to be added. -/
theorem rows_not_skipped (document : Document) :
    (operationRows spell document).filter (!·.isSkipped) =
      (document.placements spell parse).map fun placement =>
        OperationRow.ofFunction placement.module placement.function := by
  unfold operationRows Document.placements allPlacements
  rw [Document.operations_eq, List.map_flatMap, List.filter_flatMap, List.map_flatMap]
  exact List.flatMap_congr fun (path, item) _ => rows_of_path spell parse path item

/-- Rows of functions, module by module, are the modules with all their functions. -/
theorem byModule_rows (placements : List Placement) :
    byModule (placements.map fun placement =>
        OperationRow.ofFunction placement.module placement.function) =
      (placements.map (·.module)).eraseDups.map fun name =>
        (name, (functionsFor placements name).map (OperationRow.ofFunction name)) := by
  unfold byModule functionsFor
  rw [List.map_map]
  refine List.map_congr_left fun name _ => ?_
  rw [List.filter_map, List.map_map, Prod.mk.injEq]
  refine ⟨rfl, List.map_congr_left fun placement hm => ?_⟩
  have hname : placement.module = name := of_decide_eq_true (List.mem_filter.mp hm).2
  rw [hname]
  rfl

/-! ## The list and the modules -/

/-- The rows of the functions of a module are different, since their places are. -/
theorem nodup_rows (paths : Keyed String PathItem) (module : String) :
    ((functionsFor (allPlacements spell parse paths) module).map
      (OperationRow.ofFunction module)).Nodup := by
  have hplaces := List.pairwise_map.mp (nodup_place_functionsFor spell parse paths module)
  refine List.pairwise_map.mpr (hplaces.imp ?_)
  intro first second hplace hrow
  simp only [OperationRow.ofFunction, OperationRow.mk.injEq] at hrow
  exact hplace (Prod.ext hrow.2.2.2 (Method.eq_of_token hrow.2.2.1))

/-- The module of an operation on a path that names a function has the function for it. -/
theorem exists_function_of_path {document : Document} {operation : PlacedOperation}
    (hoperation : operation ∈ document.operations) {module name : String}
    (hpath : functionOfPath spell operation.path = some (module, name)) :
    let function := ClientFunction.ofOperation spell parse name operation.method operation.path
      operation.operation
    module ∈ ((document.placements spell parse).map (·.module)).eraseDups ∧
      function ∈ functionsFor (document.placements spell parse) module := by
  intro function
  have hplaced : ⟨module, function⟩ ∈ document.placements spell parse :=
    Document.mem_placements.mpr ⟨operation, hoperation, name, hpath, rfl⟩
  exact ⟨List.mem_eraseDups.mpr (List.mem_map.mpr ⟨_, hplaced, rfl⟩),
    mem_functionsFor.mpr hplaced⟩

/-- For every document, the rows that are not marked as skipped, module by module, are the
generated functions in their order. No function is left out as a duplicate, every operation whose
row is not marked has exactly one function in its module, and a row is marked exactly if no
function is generated for its path. It does not matter how names are spelt, or which media types
are JSON. The assumption is that no text of the functions is 2^64 bytes long or longer, as no text
in memory is. -/
theorem generated_as_listed (document : Document)
    (h : ∀ placement ∈ document.placements spell parse, placement.function.Addressable) :
    let grouping := document.grouping spell parse
    byModule ((operationRows spell document).filter (!·.isSkipped)) =
        grouping.modules.map (fun module =>
          (module.name, module.functions.map (OperationRow.ofFunction module.name))) ∧
      grouping.duplicates = 0 ∧
      (∀ operation ∈ document.operations,
        ¬ (OperationRow.ofOperation spell operation).isSkipped →
          ∃ module ∈ grouping.modules,
            (module.functions.map (OperationRow.ofFunction module.name)).count
              (.ofOperation spell operation) = 1) ∧
      ∀ operation ∈ document.operations,
        (OperationRow.ofOperation spell operation).isSkipped ↔
          ∀ module ∈ grouping.modules, ∀ function ∈ module.functions,
            function.path ≠ operation.path := by
  intro grouping
  have hmodules : grouping.modules = _ := modules_grouping h
  refine ⟨?_, duplicates_grouping h, ?_, ?_⟩
  · rw [rows_not_skipped spell parse, byModule_rows, hmodules, List.map_map]
    rfl
  · intro operation hoperation hrow
    rw [isSkipped_iff] at hrow
    obtain ⟨⟨module, name⟩, hpath⟩ := Option.ne_none_iff_exists'.mp hrow
    obtain ⟨hmodule, hfunction⟩ := exists_function_of_path spell parse hoperation hpath
    refine ⟨_, hmodules ▸ List.mem_map.mpr ⟨module, hmodule, rfl⟩, ?_⟩
    refine List.count_eq_one_of_mem (nodup_rows spell parse _ module)
      (List.mem_map.mpr ⟨_, hfunction, ?_⟩)
    simp [OperationRow.ofOperation, OperationRow.ofFunction, hpath, ClientFunction.ofOperation]
  · intro operation hoperation
    rw [isSkipped_iff, hmodules]
    constructor
    · rintro hpath _ hmodule function hfunction e
      obtain ⟨name, -, rfl⟩ := List.mem_map.mp hmodule
      obtain ⟨other, -, _, hother, hof⟩ :=
        Document.mem_placements.mp (mem_functionsFor.mp hfunction)
      simp only at hof
      rw [hof] at e
      rw [show other.path = operation.path from e, hpath] at hother
      cases hother
    · intro hnone
      cases hpath : functionOfPath spell operation.path with
      | none => rfl
      | some names =>
        obtain ⟨hmodule, hfunction⟩ := exists_function_of_path spell parse hoperation hpath
        exact absurd rfl (hnone _ (List.mem_map.mpr ⟨_, hmodule, rfl⟩) _ hfunction)

/-- Two modules whose paths alternate, two operations on one path, and a path without a
function. -/
def alternating : Document :=
  { paths := some (.ofList
      [("/pets/list", .ofList [(.get, {}), (.post, {})]), ("/shop/orders", .ofList [(.get, {})]),
        ("/health", .ofList [(.get, {})]), ("/pets/find-one", .ofList [(.get, {})])]) }

theorem generated_as_listed_alternating :
    let placements := alternating.placements Text.latin MediaType.ofText?
    let grouping := alternating.grouping Text.latin MediaType.ofText?
    (∀ placement ∈ placements, placement.function.Addressable) ∧
      grouping.duplicates = 0 ∧
      grouping.modules.map (fun module =>
          (module.name, module.functions.map (OperationRow.ofFunction module.name))) =
        [("pets", [⟨"list", "pets", "GET", "/pets/list"⟩, ⟨"list", "pets", "POST", "/pets/list"⟩,
            ⟨"findOne", "pets", "GET", "/pets/find-one"⟩]),
          ("shop", [⟨"orders", "shop", "GET", "/shop/orders"⟩])] := by
  intro placements grouping
  have hfits : ∀ placement ∈ placements, placement.function.Addressable := by
    decide +kernel
  obtain ⟨hrows, hduplicates, -, -⟩ :=
    generated_as_listed Text.latin MediaType.ofText? alternating hfits
  refine ⟨hfits, hduplicates, ?_⟩
  rw [← hrows]
  decide +kernel

end OpenApiClient.Command
