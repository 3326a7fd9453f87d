import Mathlib.Algebra.GroupWithZero.Nat
import OpenApiClient.Proofs.Client.GroupingRun

/-!
# Adding paths again

A grouping keeps what it has: paths that have been added before change no module when they are
added again, whatever happened in between, and each of their functions is counted as a duplicate.

Results:
* `modulesFor_append_known`: functions that are there already change no module.
* `insertAll_known`: and each of them is counted.
* `added_again_counts`: for paths, after any steps and in any order.
-/
namespace OpenApiClient.Client

/-! ## Functions that are there already -/

/-- A module keeps its functions when one of them comes again: its identity is there. -/
theorem moduleFor_again {inserted : List Placement} {again : Placement} (h : again ∈ inserted)
    (name : String) : moduleFor (inserted ++ [again]) name = moduleFor inserted name := by
  unfold moduleFor
  rw [functionsFor_concat]
  split
  · rename_i hname
    have hknown : again.function.identity ∈
        (firstsBy (·.identity) (functionsFor inserted name)).map (·.identity) :=
      mem_map_firstsBy.mpr (List.mem_map_of_mem (mem_functionsFor.mpr (hname ▸ h)))
    rw [firstsBy_concat, if_pos hknown]
  · rfl

theorem modulesFor_again {inserted : List Placement} {again : Placement} (h : again ∈ inserted) :
    modulesFor (inserted ++ [again]) = modulesFor inserted := by
  have hname : again.module ∈ inserted.map (·.module) := List.mem_map_of_mem h
  unfold modulesFor
  rw [List.map_append, List.map_singleton, eraseDups_concat, if_pos hname]
  exact List.map_congr_left fun name _ => moduleFor_again h name

/-- Functions that are there already change no module. -/
theorem modulesFor_append_known {inserted again : List Placement}
    (h : ∀ placement ∈ again, placement ∈ inserted) :
    modulesFor (inserted ++ again) = modulesFor inserted := by
  induction again using List.reverseRecOn with
  | nil => rw [List.append_nil]
  | append_singleton again last ih =>
    have hlast : last ∈ inserted ++ again :=
      List.mem_append_left _ (h last (List.mem_append_right _ (List.mem_singleton_self last)))
    rw [← List.append_assoc, modulesFor_again hlast]
    exact ih fun placement hplacement => h placement (List.mem_append_left _ hplacement)

namespace Grouping

/-- Functions that are there already change no module, and each of them is counted. The size
tells the count, since every function is either kept or counted. -/
theorem insertAll_known {inserted again : List Placement}
    (h : ∀ placement ∈ again, placement ∈ inserted) :
    (({} : Grouping).insertAll (inserted ++ again)).modules =
        (({} : Grouping).insertAll inserted).modules ∧
      (({} : Grouping).insertAll (inserted ++ again)).duplicates =
        (({} : Grouping).insertAll inserted).duplicates + again.length := by
  have hmodules : (({} : Grouping).insertAll (inserted ++ again)).modules =
      (({} : Grouping).insertAll inserted).modules := by
    rw [modules_insertAll, modules_insertAll, modulesFor_append_known h]
  have hsize : (({} : Grouping).insertAll (inserted ++ again)).size =
      (({} : Grouping).insertAll inserted).size := by
    unfold size
    rw [hmodules]
  have hbefore := size_insertAll {} inserted
  have hafter := size_insertAll {} (inserted ++ again)
  rw [List.length_append] at hafter
  exact ⟨hmodules, by omega⟩

/-! ## Paths -/

variable (spell : List Char → List Char) (parse : List Char → Option MediaType)

/-- Adds paths with their items one after the other. -/
def addEach (grouping : Grouping) (entries : List (String × PathItem)) : Grouping :=
  entries.foldl (fun grouping entry => grouping.addPath spell parse entry.1 entry.2) grouping

/-- How many operations the paths have that name a function. -/
def namedOperations (entries : List (String × PathItem)) : Nat :=
  ((entries.filter (NamesFunction spell ·.1)).map (·.2.size)).sum

theorem addEach_run (steps : List Step) (entries : List (String × PathItem)) :
    (run spell parse steps).addEach spell parse entries =
      run spell parse (steps ++ entries.map fun entry => Step.addPath entry.1 entry.2) := by
  unfold addEach run
  rw [List.foldl_append, List.foldl_map]
  rfl

theorem insertions_append (first second : List Step) :
    insertions spell parse (first ++ second) =
      insertions spell parse first ++ insertions spell parse second :=
  List.flatMap_append

theorem length_insertions_addPath (entries : List (String × PathItem)) :
    (insertions spell parse (entries.map fun entry => Step.addPath entry.1 entry.2)).length =
      namedOperations spell entries := by
  unfold insertions namedOperations
  induction entries with
  | nil => rfl
  | cons entry rest ih =>
    rw [List.map_cons, List.flatMap_cons, List.length_append, ih, List.filter_cons]
    show (placements spell parse entry.1 entry.2).length + _ = _
    rw [length_placements]
    by_cases hname : NamesFunction spell entry.1 <;> simp [hname]

/-- A grouping that any steps have led to, and paths with items that have all been added in these
steps, in any order and any number of times. Adding them again leaves the modules as they are,
with their names, their functions and the order of both; and one more duplicate is counted for
every operation on those of the paths that name a function. It is so for every spelling of
names. -/
theorem added_again_counts {steps : List Step} {again : List (String × PathItem)}
    (h : ∀ entry ∈ again, Step.addPath entry.1 entry.2 ∈ steps) :
    let before := run spell parse steps
    let after := before.addEach spell parse again
    after.finish.modules = before.finish.modules ∧
      after.finish.duplicates = before.finish.duplicates + namedOperations spell again := by
  intro before after
  have hknown : ∀ placement ∈
      insertions spell parse (again.map fun entry => Step.addPath entry.1 entry.2),
      placement ∈ insertions spell parse steps := by
    intro placement hplacement
    obtain ⟨step, hstep, hinserted⟩ := List.mem_flatMap.mp hplacement
    obtain ⟨entry, hentry, rfl⟩ := List.mem_map.mp hstep
    exact List.mem_flatMap.mpr ⟨_, h entry hentry, hinserted⟩
  obtain ⟨hmodules, hduplicates⟩ := insertAll_known hknown
  rw [length_insertions_addPath] at hduplicates
  unfold after before
  rw [addEach_run, run_eq, run_eq, insertions_append]
  exact ⟨hmodules, hduplicates⟩

/-- A single function comes before the path with the same function, so that the path itself has
nothing kept. A path that names no function and one of another module stand between. -/
def collapsedSteps : List Step :=
  [.insert "pets" (.ofOperation Text.latin MediaType.ofText? "list" .get "/pets/list"
      { description := some "All pets." }),
    .addPath "/pets/list" readAndWrite, .addPath "/pets" readAndWrite,
    .addPath "/shop/items" readAndWrite,
    .insert "pets" (.ofOperation Text.latin MediaType.ofText? "list" .get "/pets/list" {})]

/-- The paths of these steps in another order. -/
def collapsedPaths : List (String × PathItem) :=
  [("/shop/items", readAndWrite), ("/pets", readAndWrite), ("/pets/list", readAndWrite)]

theorem added_again_counts_collapsed :
    let before := run Text.latin MediaType.ofText? collapsedSteps
    let after := before.addEach Text.latin MediaType.ofText? collapsedPaths
    (∀ entry ∈ collapsedPaths, Step.addPath entry.1 entry.2 ∈ collapsedSteps) ∧
      after.finish.modules = before.finish.modules ∧
      before.finish.duplicates = 2 ∧ after.finish.duplicates = 6 := by
  intro before after
  have hadded : ∀ entry ∈ collapsedPaths, Step.addPath entry.1 entry.2 ∈ collapsedSteps := by
    simp [collapsedPaths, collapsedSteps]
  have hbefore : before.finish.duplicates = 2 := by decide +kernel
  have hnamed : namedOperations Text.latin collapsedPaths = 4 := by decide +kernel
  obtain ⟨hmodules, hduplicates⟩ := added_again_counts Text.latin MediaType.ofText? hadded
  exact ⟨hadded, hmodules, hbefore, by rw [hduplicates, hbefore, hnamed]⟩

end Grouping

end OpenApiClient.Client
