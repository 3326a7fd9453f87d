import OpenApiClient.Proofs.Client.Grouping
import OpenApiClient.Proofs.Client.Identity

/-!
# The functions of a document

In a document every operation has a place of its own, a path and a method. The identity of a
function tells its place, so that no function of a document is left out of its module.

Results:
* `Document.mem_placements`: the functions to be added are those for the operations on paths that
  name one.
* `nodup_identity_functionsFor`: the functions of one document have different identities.
* `modules_grouping`, `duplicates_grouping`: the modules of a document have all its functions.
-/
namespace OpenApiClient

open Client

namespace Document

variable (spell : List Char → List Char) (parse : List Char → Option MediaType)

/-- The functions for all operations, each with its module. -/
def placements (document : Document) : List Placement :=
  allPlacements spell parse (document.paths.getD .empty)

/-- The modules of a document; none if it has no table of paths. -/
def grouping (document : Document) : Grouping :=
  (document.paths.map (Grouping.ofPaths spell parse)).getD {}

theorem grouping_eq (document : Document) :
    document.grouping spell parse =
      Grouping.ofPaths spell parse (document.paths.getD .empty) := by
  unfold grouping
  cases document.paths <;> rfl

theorem operations_eq (document : Document) :
    document.operations = (document.paths.getD .empty).entries.flatMap fun (path, item) =>
      item.entries.map fun (method, operation) => ⟨path, method, operation⟩ := by
  unfold operations
  cases document.paths <;> rfl

/-- The functions to be added are those for the operations on paths that name one. -/
theorem mem_placements {spell : List Char → List Char} {parse : List Char → Option MediaType}
    {document : Document} {placement : Placement} :
    placement ∈ document.placements spell parse ↔
      ∃ operation ∈ document.operations, ∃ name,
        functionOfPath spell operation.path = some (placement.module, name) ∧
          placement.function = .ofOperation spell parse name operation.method operation.path
            operation.operation := by
  rw [operations_eq]
  unfold placements allPlacements Client.placements
  simp only [List.mem_flatMap]
  constructor
  · rintro ⟨⟨path, item⟩, hentry, hm⟩
    simp only at hm
    split at hm
    · cases hm
    · rename_i module name hpath
      obtain ⟨⟨method, operation⟩, hmethod, rfl⟩ := List.mem_map.mp hm
      exact ⟨⟨path, method, operation⟩,
        ⟨(path, item), hentry, List.mem_map.mpr ⟨(method, operation), hmethod, rfl⟩⟩,
        name, hpath, rfl⟩
  · rintro ⟨_, ⟨⟨path, item⟩, hentry, hm⟩, name, hpath, hfunction⟩
    obtain ⟨⟨method, operation⟩, hmethod, rfl⟩ := List.mem_map.mp hm
    refine ⟨(path, item), hentry, ?_⟩
    simp only at hpath ⊢
    rw [hpath]
    exact List.mem_map.mpr ⟨(method, operation), hmethod, by
      cases placement; simp only at hfunction; rw [hfunction]⟩

end Document

namespace Client

/-- Where a function stands in the document. -/
def ClientFunction.place (function : ClientFunction) : String × Method :=
  (function.path, function.method)

section

variable (spell : List Char → List Char) (parse : List Char → Option MediaType)

theorem map_place_placements (path : String) (item : PathItem) :
    (placements spell parse path item).map (·.function.place) = [] ∨
      (placements spell parse path item).map (·.function.place) = item.keys.map (path, ·) := by
  unfold placements
  cases functionOfPath spell path with
  | none => exact .inl rfl
  | some names =>
    right
    simp only [List.map_map, Keyed.keys]
    rfl

/-- No two functions of a table of paths have the same place. -/
theorem nodup_place_allPlacements (paths : Keyed String PathItem) :
    ((allPlacements spell parse paths).map (·.function.place)).Nodup := by
  unfold allPlacements
  rw [List.map_flatMap, List.nodup_flatMap]
  constructor
  · rintro ⟨path, item⟩ -
    rcases map_place_placements spell parse path item with h | h
    · simp only [h]; exact List.nodup_nil
    · simp only [h]
      exact item.nodup_keys.map fun _ _ e => (Prod.mk.inj e).2
  · refine (List.pairwise_map.mp paths.nodup_keys).imp ?_
    rintro ⟨path, item⟩ ⟨path', item'⟩ hne
    have hpath : ∀ path item,
        ∀ place ∈ (placements spell parse path item).map (·.function.place), place.1 = path := by
      intro path item place hm
      rcases map_place_placements spell parse path item with h | h
      · rw [h] at hm; cases hm
      · rw [h] at hm; obtain ⟨method, -, rfl⟩ := List.mem_map.mp hm; rfl
    intro place h h'
    exact hne ((hpath _ _ _ h).symm.trans (hpath _ _ _ h'))

theorem nodup_place_functionsFor (paths : Keyed String PathItem) (module : String) :
    ((functionsFor (allPlacements spell parse paths) module).map (·.place)).Nodup := by
  have hsub : List.Sublist ((allPlacements spell parse paths).filter (·.module = module))
      (allPlacements spell parse paths) := List.filter_sublist
  unfold functionsFor
  rw [List.map_map]
  exact (hsub.map (·.function.place)).nodup (nodup_place_allPlacements spell parse paths)

end

section

variable {spell : List Char → List Char} {parse : List Char → Option MediaType}

/-- The functions of one document have different identities, since the identity tells the
place. -/
theorem nodup_identity_functionsFor {paths : Keyed String PathItem}
    (h : ∀ placement ∈ allPlacements spell parse paths, placement.function.Addressable)
    (module : String) :
    ((functionsFor (allPlacements spell parse paths) module).map (·.identity)).Nodup := by
  have hplaces := List.pairwise_map.mp (nodup_place_functionsFor spell parse paths module)
  refine List.pairwise_map.mpr (hplaces.imp_of_mem ?_)
  intro first second hfirst hsecond hplace hidentity
  obtain ⟨-, -, -, hmethod, hpath⟩ := ClientFunction.eq_fields_of_identity
    (h _ (mem_functionsFor.mp hfirst)) (h _ (mem_functionsFor.mp hsecond)) hidentity
  exact hplace (Prod.ext hpath hmethod)

/-- The modules of a document have all its functions. -/
theorem modules_grouping {document : Document}
    (h : ∀ placement ∈ document.placements spell parse, placement.function.Addressable) :
    (document.grouping spell parse).modules =
      ((document.placements spell parse).map (·.module)).eraseDups.map fun name =>
        ⟨name, functionsFor (document.placements spell parse) name⟩ := by
  rw [Document.grouping_eq, Grouping.modules_ofPaths]
  refine List.map_congr_left fun name _ => ?_
  rw [moduleFor, firstsBy_of_nodup (nodup_identity_functionsFor h name)]
  rfl

theorem duplicates_grouping {document : Document}
    (h : ∀ placement ∈ document.placements spell parse, placement.function.Addressable) :
    (document.grouping spell parse).duplicates = 0 := by
  rw [Document.grouping_eq]
  unfold Grouping.ofPaths
  rw [Grouping.addPaths_eq]
  exact Grouping.duplicates_insertAll (nodup_identity_functionsFor h)

end

end Client

end OpenApiClient
