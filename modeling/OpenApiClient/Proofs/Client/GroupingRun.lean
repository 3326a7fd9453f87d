import OpenApiClient.Proofs.Client.Grouping
import OpenApiClient.Proofs.Client.Identity
import OpenApiClient.Text.Latin

/-!
# Runs of a grouping

A grouping grows by paths and by single functions, in any order. Whatever the steps are, every
function that goes in is either kept, in its module behind those that were kept before it, or it
is counted because one with its key is there.

Results:
* `step_eq`, `run_eq`: a run inserts the functions of its steps one after the other.
* `keepsFirsts_run`: what holds after every run.
* `extends_insertInto`, `extends_steps`: what is there stays where it is.
* `run_ordered`: both together, for a run and every part of it from its start.
-/
namespace OpenApiClient.Client

/-! ## Steps -/

/-- One way to grow a grouping. -/
inductive Step where
  | addPath (path : String) (item : PathItem)
  | insert (module : String) (function : ClientFunction)

variable (spell : List Char → List Char) (parse : List Char → Option MediaType)

namespace Step

/-- The functions that a step inserts. -/
def insertions : Step → List Placement
  | addPath path item => placements spell parse path item
  | insert module function => [⟨module, function⟩]

/-- What is to be said about a step. -/
def warnings : Step → List Warning
  | addPath path _ => (rejection spell path).toList
  | insert .. => []

end Step

/-- The functions that several steps insert, in order. -/
def insertions (steps : List Step) : List Placement := steps.flatMap (·.insertions spell parse)

namespace Grouping

def step (grouping : Grouping) : Step → Grouping
  | .addPath path item => grouping.addPath spell parse path item
  | .insert module function => (grouping.insert module function).1

/-- The grouping after steps from the start. -/
def run (steps : List Step) : Grouping := steps.foldl (step spell parse) {}

theorem step_eq (grouping : Grouping) (step : Step) :
    grouping.step spell parse step =
      (grouping.insertAll (step.insertions spell parse)).warnAll (step.warnings spell) := by
  cases step with
  | addPath path item => exact addPath_eq spell parse grouping path item
  | insert module function =>
    simp [Grouping.step, Step.insertions, Step.warnings, warnAll, insertAll]

theorem steps_eq (grouping : Grouping) (steps : List Step) :
    steps.foldl (step spell parse) grouping =
      (grouping.insertAll (insertions spell parse steps)).warnAll
        (steps.flatMap (·.warnings spell)) := by
  unfold insertions
  induction steps generalizing grouping with
  | nil => simp [insertAll, warnAll]
  | cons step rest ih =>
    rw [List.foldl_cons, ih, step_eq, insertAll_warnAll, List.flatMap_cons, List.flatMap_cons,
      insertAll_append]
    simp only [warnAll, List.append_assoc]

theorem run_eq (steps : List Step) :
    run spell parse steps =
      (({} : Grouping).insertAll (insertions spell parse steps)).warnAll
        (steps.flatMap (·.warnings spell)) :=
  steps_eq spell parse {} steps

theorem modules_run (steps : List Step) :
    (run spell parse steps).modules = modulesFor (insertions spell parse steps) := by
  rw [run_eq]
  exact modules_insertAll (insertions spell parse steps)

theorem warnings_run (steps : List Step) :
    (run spell parse steps).warnings = steps.flatMap (·.warnings spell) := by
  rw [run_eq]
  show (({} : Grouping).insertAll _).warnings ++ _ = _
  rw [warnings_insertAll]
  rfl

/-! ## What holds after every run -/

/-- The modules of a grouping have different names and stand in the order in which their names
were first used. Each of them has a function. The functions of a module have different keys, they
stand in the order in which their keys were first used, and each is the first one with its key.
Every function that was inserted is kept or counted. -/
structure KeepsFirsts (grouping : Grouping) (inserted : List Placement) : Prop where
  distinct : (grouping.modules.map (·.name)).Nodup
  ordered : grouping.modules.map (·.name) = (inserted.map (·.module)).eraseDups
  nonempty : ∀ module ∈ grouping.modules, module.functions ≠ []
  keys_distinct : ∀ module ∈ grouping.modules, (module.functions.map (·.key)).Nodup
  keys_ordered : ∀ module ∈ grouping.modules, module.functions.map (·.key) =
    ((functionsFor inserted module.name).map (·.key)).eraseDups
  first : ∀ module ∈ grouping.modules, ∀ function ∈ module.functions,
    (functionsFor inserted module.name).find? (fun other => other.key = function.key) =
      some function
  counted : grouping.duplicates + grouping.size = inserted.length

theorem names_modulesFor (inserted : List Placement) :
    (modulesFor inserted).map (·.name) = (inserted.map (·.module)).eraseDups := by
  unfold modulesFor
  rw [List.map_map]
  exact List.map_id _

theorem nodup_names_run (steps : List Step) :
    ((run spell parse steps).modules.map (·.name)).Nodup := by
  rw [modules_run, names_modulesFor]
  exact nodup_eraseDups _

/-- Where all lengths can be written, a module keeps the first function with each key. -/
theorem functions_of_mem_modulesFor {inserted : List Placement} {module : ClientModule}
    (h : ∀ placement ∈ inserted, placement.function.Addressable)
    (hm : module ∈ modulesFor inserted) :
    module.functions = firstsBy (·.key) (functionsFor inserted module.name) := by
  obtain ⟨name, -, rfl⟩ := List.mem_map.mp hm
  exact firstsBy_congr fun f hf g hg => ClientFunction.identity_eq_iff
    (h _ (mem_functionsFor.mp hf)) (h _ (mem_functionsFor.mp hg))

variable {spell} {parse}

theorem keepsFirsts_run {steps : List Step}
    (h : ∀ placement ∈ insertions spell parse steps, placement.function.Addressable) :
    KeepsFirsts (run spell parse steps) (insertions spell parse steps) := by
  have hmodules := modules_run spell parse steps
  constructor
  · exact nodup_names_run spell parse steps
  · rw [hmodules, names_modulesFor]
  · intro module hm
    exact functions_ne_nil_of_mem_modulesFor (hmodules ▸ hm)
  · intro module hm
    rw [functions_of_mem_modulesFor h (hmodules ▸ hm), map_firstsBy]
    exact nodup_eraseDups _
  · intro module hm
    rw [functions_of_mem_modulesFor h (hmodules ▸ hm), map_firstsBy]
  · intro module hm function hf
    rw [functions_of_mem_modulesFor h (hmodules ▸ hm)] at hf
    exact find?_of_mem_firstsBy hf
  · have hsize := size_insertAll {} (insertions spell parse steps)
    rw [run_eq]
    show (({} : Grouping).insertAll _).duplicates + (({} : Grouping).insertAll _).size = _
    rw [Nat.add_comm, hsize]
    simp [size]

/-! ## What is there stays -/

/-- A list of modules that has grown: every module is where it was, with more functions behind
those that it had, and new modules are behind all of them. -/
def Extends (earlier later : List ClientModule) : Prop :=
  ∀ (i : Nat) (module : ClientModule), earlier[i]? = some module →
    ∃ more, later[i]? = some ⟨module.name, module.functions ++ more⟩

theorem Extends.refl (modules : List ClientModule) : Extends modules modules :=
  fun _ _ h => ⟨[], by rw [h, List.append_nil]⟩

theorem Extends.trans {first second third : List ClientModule} (h : Extends first second)
    (h' : Extends second third) : Extends first third := by
  intro i module hmodule
  obtain ⟨more, hsecond⟩ := h i module hmodule
  obtain ⟨others, hthird⟩ := h' i _ hsecond
  exact ⟨more ++ others, by rw [hthird, List.append_assoc]⟩

theorem Extends.cons {module : ClientModule} {more : List ClientFunction}
    {earlier later : List ClientModule} (h : Extends earlier later) :
    Extends (module :: earlier) (⟨module.name, module.functions ++ more⟩ :: later) := by
  intro i other hother
  cases i with
  | zero => cases hother; exact ⟨more, rfl⟩
  | succ i => exact h i other hother

theorem extends_insertInto (name : String) (function : ClientFunction)
    (modules : List ClientModule) :
    Extends modules (insertInto name function modules).1 := by
  induction modules with
  | nil => exact nofun
  | cons module rest ih =>
    unfold insertInto
    split
    · split
      · exact .refl _
      · exact (Extends.refl rest).cons
    · have hsame := @Extends.cons module [] _ _ ih
      rwa [List.append_nil] at hsame

theorem extends_insertAll (grouping : Grouping) (inserted : List Placement) :
    Extends grouping.modules (grouping.insertAll inserted).modules := by
  induction inserted generalizing grouping with
  | nil => exact .refl _
  | cons placement rest ih =>
    exact (extends_insertInto placement.module placement.function grouping.modules).trans
      (ih (grouping.insert placement.module placement.function).1)

variable (spell) (parse) in
theorem extends_steps (grouping : Grouping) (steps : List Step) :
    Extends grouping.modules (steps.foldl (step spell parse) grouping).modules := by
  rw [steps_eq]
  exact extends_insertAll grouping (insertions spell parse steps)

/-- Whatever the steps are, a grouping has modules of different names in the order of their first
use, none of them empty; a module has the first function with each key, in the order of their
insertion; and the functions that were left out are counted. This holds after every part of the
steps from their start, and the steps that follow only append. -/
theorem run_ordered {steps earlier : List Step}
    (h : ∀ placement ∈ insertions spell parse steps, placement.function.Addressable)
    (hearlier : earlier <+: steps) :
    KeepsFirsts (run spell parse earlier) (insertions spell parse earlier) ∧
      Extends (run spell parse earlier).modules (run spell parse steps).modules := by
  obtain ⟨later, rfl⟩ := hearlier
  constructor
  · refine keepsFirsts_run fun placement hplacement => h placement ?_
    rw [insertions, List.flatMap_append]
    exact List.mem_append_left _ hplacement
  · rw [run, run, List.foldl_append]
    exact extends_steps spell parse _ later

/-! ## A run with repetitions -/

/-- An item with two operations. -/
def readAndWrite : PathItem := .ofList [(.get, {}), (.post, {})]

/-- Paths of two modules and one that names no function, a path that comes again, and two single
functions of which one is there. -/
def mixedSteps : List Step :=
  [.addPath "/pets/list" readAndWrite, .addPath "/shop/items" readAndWrite,
    .addPath "/pets" readAndWrite, .addPath "/pets/list" readAndWrite,
    .insert "pets" (.ofOperation Text.latin MediaType.ofText? "list" .get "/pets/list" {}),
    .insert "pets" (.ofOperation Text.latin MediaType.ofText? "show" .get "/pets/show" {})]

theorem run_ordered_mixed :
    let inserted := insertions Text.latin MediaType.ofText?
    let run := run Text.latin MediaType.ofText?
    (∀ placement ∈ inserted mixedSteps, placement.function.Addressable) ∧
      KeepsFirsts (run (mixedSteps.take 4)) (inserted (mixedSteps.take 4)) ∧
      Extends (run (mixedSteps.take 4)).modules (run mixedSteps).modules ∧
      (run mixedSteps).modules.map (·.name) = ["pets", "shop"] ∧
      (run mixedSteps).size = 5 ∧ (run mixedSteps).duplicates = 3 := by
  intro inserted run
  have haddressable : ∀ placement ∈ inserted mixedSteps, placement.function.Addressable := by
    decide +kernel
  obtain ⟨hkeeps, hextends⟩ := run_ordered haddressable (List.take_prefix 4 mixedSteps)
  exact ⟨haddressable, hkeeps, hextends, by decide +kernel⟩

end Grouping

end OpenApiClient.Client
