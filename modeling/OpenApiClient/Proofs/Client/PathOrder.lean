import Mathlib.Data.Multiset.MapFold
import OpenApiClient.Client.FunctionCode
import OpenApiClient.Proofs.Client.Document
import OpenApiClient.Text.Latin

/-!
# The order of paths

The order of the paths of a document decides in which order its modules and their functions come,
and nothing else. Which modules there are, which functions each of them has and what is to be said
is the same for every order.

Results:
* `functionsFor_perm`, `eraseDups_perm`, `repeated_perm`: the parts that a grouping is made of.
* `modules_ofPaths_eq`: no function of a document is left out, so that none comes first at the
  cost of another.
* `ofPaths_perm`: the whole grouping.
-/
namespace OpenApiClient.Client

/-! ## Lists in another order -/

theorem eraseDups_perm {α : Type} [DecidableEq α] {first second : List α}
    (h : first.Perm second) : first.eraseDups.Perm second.eraseDups := by
  refine (List.perm_ext_iff_of_nodup (nodup_eraseDups first) (nodup_eraseDups second)).mpr ?_
  intro x
  rw [List.mem_eraseDups, List.mem_eraseDups, h.mem_iff]

/-- The same members are repeated, although each shows where it occurs for the second time. -/
theorem repeated_perm {α : Type} [DecidableEq α] {first second : List α}
    (h : first.Perm second) : (repeated first).Perm (repeated second) := by
  refine (List.perm_ext_iff_of_nodup (nodup_repeatedFrom [] [] first)
    (nodup_repeatedFrom [] [] second)).mpr ?_
  intro x
  show x ∈ repeated first ↔ x ∈ repeated second
  rw [mem_repeated_iff, mem_repeated_iff, h.count_eq]

theorem functionsFor_perm {first second : List Placement} (h : first.Perm second)
    (name : String) : (functionsFor first name).Perm (functionsFor second name) :=
  (h.filter _).map _

theorem allPlacements_perm (spell : List Char → List Char)
    (parse : List Char → Option MediaType) {first second : Keyed String PathItem}
    (h : first.entries.Perm second.entries) :
    (allPlacements spell parse first).Perm (allPlacements spell parse second) :=
  h.flatMap_right _

/-! ## Modules -/

namespace ClientModule

/-- A module without the order of its functions. -/
def unordered (module : ClientModule) : String × Multiset ClientFunction :=
  (module.name, module.functions)

/-- The code of the functions of a module without their order. -/
def unorderedCode (module : ClientModule) : String × Multiset String :=
  (module.name, (module.functions.map (·.code) : List String))

theorem unorderedCode_eq (module : ClientModule) :
    module.unorderedCode = (module.unordered.1, module.unordered.2.map (·.code)) := by
  simp [unorderedCode, unordered]

/-- A name is reported for a module whatever the order of its functions is. -/
theorem clashes_perm {first second : ClientModule} (hname : first.name = second.name)
    (h : first.functions.Perm second.functions) : first.clashes.Perm second.clashes := by
  unfold clashes
  rw [hname]
  exact (repeated_perm (h.map _)).map _

end ClientModule

namespace Grouping

variable {spell : List Char → List Char} {parse : List Char → Option MediaType}

/-- The modules for a table of paths have all the functions that go into them. -/
theorem modules_ofPaths_eq {paths : Keyed String PathItem}
    (h : ∀ placement ∈ allPlacements spell parse paths, placement.function.Addressable) :
    (ofPaths spell parse paths).modules =
      ((allPlacements spell parse paths).map (·.module)).eraseDups.map fun name =>
        ⟨name, functionsFor (allPlacements spell parse paths) name⟩ :=
  @modules_grouping spell parse { paths := some paths } h

theorem duplicates_ofPaths {paths : Keyed String PathItem}
    (h : ∀ placement ∈ allPlacements spell parse paths, placement.function.Addressable) :
    (ofPaths spell parse paths).duplicates = 0 :=
  @duplicates_grouping spell parse { paths := some paths } h

variable {first second : Keyed String PathItem}

theorem clashes_ofPaths_perm (h : first.entries.Perm second.entries)
    (hfirst : ∀ placement ∈ allPlacements spell parse first, placement.function.Addressable)
    (hsecond : ∀ placement ∈ allPlacements spell parse second, placement.function.Addressable) :
    ((ofPaths spell parse first).modules.flatMap (·.clashes)).Perm
      ((ofPaths spell parse second).modules.flatMap (·.clashes)) := by
  have hplacements := allPlacements_perm spell parse h
  rw [modules_ofPaths_eq hfirst, modules_ofPaths_eq hsecond, List.flatMap_map, List.flatMap_map]
  refine (eraseDups_perm (hplacements.map _)).flatMap fun name _ => ?_
  exact ClientModule.clashes_perm rfl (functionsFor_perm hplacements name)

theorem unordered_ofPaths_perm (h : first.entries.Perm second.entries)
    (hfirst : ∀ placement ∈ allPlacements spell parse first, placement.function.Addressable)
    (hsecond : ∀ placement ∈ allPlacements spell parse second, placement.function.Addressable) :
    ((ofPaths spell parse first).modules.map (·.unordered)).Perm
      ((ofPaths spell parse second).modules.map (·.unordered)) := by
  have hplacements := allPlacements_perm spell parse h
  have hsame : ∀ name,
      (functionsFor (allPlacements spell parse first) name : Multiset ClientFunction) =
        functionsFor (allPlacements spell parse second) name :=
    fun name => Multiset.coe_eq_coe.mpr (functionsFor_perm hplacements name)
  rw [modules_ofPaths_eq hfirst, modules_ofPaths_eq hsecond, List.map_map, List.map_map]
  have hmap : ∀ names : List String,
      names.map (ClientModule.unordered ∘ fun name =>
        ⟨name, functionsFor (allPlacements spell parse first) name⟩) =
      names.map (ClientModule.unordered ∘ fun name =>
        ⟨name, functionsFor (allPlacements spell parse second) name⟩) :=
    fun names => List.map_congr_left fun name _ => congrArg (name, ·) (hsame name)
  rw [hmap]
  exact (eraseDups_perm (hplacements.map _)).map _

/-- The paths of a document in another order give the same modules in some order, each with the
same functions and the same code for each of them, the same number of duplicates, and the same
warnings in some order. It does not matter how names are spelt, or which media types are JSON. The
assumption is that no text of the functions is 2^64 bytes long or longer, as no text in memory
is. -/
theorem ofPaths_perm (h : first.entries.Perm second.entries)
    (haddressable : ∀ placement ∈ allPlacements spell parse first,
      placement.function.Addressable) :
    ((ofPaths spell parse first).modules.map (·.unordered)).Perm
        ((ofPaths spell parse second).modules.map (·.unordered)) ∧
      ((ofPaths spell parse first).modules.map (·.unorderedCode)).Perm
        ((ofPaths spell parse second).modules.map (·.unorderedCode)) ∧
      (ofPaths spell parse first).duplicates = (ofPaths spell parse second).duplicates ∧
      (ofPaths spell parse first).warnings.Perm (ofPaths spell parse second).warnings := by
  have hsecond : ∀ placement ∈ allPlacements spell parse second, placement.function.Addressable :=
    fun placement hm => haddressable placement ((allPlacements_perm spell parse h).mem_iff.mpr hm)
  have hmodules := unordered_ofPaths_perm h haddressable hsecond
  refine ⟨hmodules, ?_, ?_, ?_⟩
  · have hcode := hmodules.map fun module => (module.1, module.2.map (·.code))
    rw [List.map_map, List.map_map] at hcode
    simp only [funext ClientModule.unorderedCode_eq]
    exact hcode
  · rw [duplicates_ofPaths haddressable, duplicates_ofPaths hsecond]
  · rw [warnings_ofPaths, warnings_ofPaths]
    exact (h.flatMap_right _).append (clashes_ofPaths_perm h haddressable hsecond)

/-- Two modules, two paths of one function name, and a path that names no function. -/
def clashing : Keyed String PathItem :=
  .ofList [("/pets/by-id", .ofList [(.get, {})]), ("/health", .ofList [(.get, {})]),
    ("/pets/by_id", .ofList [(.get, {}), (.post, {})]), ("/shop/orders", .ofList [(.get, {})])]

/-- The same paths from the last to the first. -/
def clashingBack : Keyed String PathItem :=
  ⟨clashing.entries.reverse, by
    rw [List.map_reverse, List.nodup_reverse]; exact clashing.nodup_keys⟩

theorem ofPaths_perm_clashing :
    let placements := allPlacements Text.latin MediaType.ofText?
    let grouping := ofPaths Text.latin MediaType.ofText?
    clashing.entries.Perm clashingBack.entries ∧
      (∀ placement ∈ placements clashing, placement.function.Addressable) ∧
      ((grouping clashing).modules.map (·.unordered)).Perm
        ((grouping clashingBack).modules.map (·.unordered)) ∧
      (grouping clashing).warnings.Perm (grouping clashingBack).warnings ∧
      (grouping clashing).modules.map (·.name) = ["pets", "shop"] ∧
      (grouping clashingBack).modules.map (·.name) = ["shop", "pets"] ∧
      (grouping clashing).warnings =
        [.skippedPath "/health" 1, .duplicateFunctionName "pets" "byId"] := by
  intro placements grouping
  have hperm : clashing.entries.Perm clashingBack.entries := (List.reverse_perm _).symm
  have haddressable : ∀ placement ∈ placements clashing, placement.function.Addressable := by
    decide +kernel
  obtain ⟨hmodules, -, -, hwarnings⟩ := ofPaths_perm hperm haddressable
  exact ⟨hperm, haddressable, hmodules, hwarnings, by decide +kernel⟩

end Grouping

end OpenApiClient.Client
