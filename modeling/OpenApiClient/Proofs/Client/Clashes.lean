import OpenApiClient.Proofs.Client.GroupingRun

/-!
# Names that clash

A module that has two functions of one name cannot be loaded. At the end of a run this is said once
for each such name, behind everything that was said about the paths: module by module, and in each
module at the place of the function that is the second of its name.

Results:
* `repeated_map`: names are repeated where they occur for the second time.
* `clashes_push`: a new function is a clash if it is the second of its name.
* `count_clashes`: a name that clashes is reported once, and no other is.
* `finish_run_clashes`: what is said at the end of a run, and that later steps only append to it.
-/
namespace OpenApiClient.Client

/-! ## Second occurrences -/

section Seconds

variable {α β : Type} [DecidableEq β]

/-- The members of a list whose key exactly one earlier member has. -/
def secondsBy (key : α → β) (list : List α) : List α :=
  (list.zipIdx.filter fun (x, index) =>
    (list.take index).countP (key · = key x) = 1).map (·.1)

theorem secondsBy_concat (key : α → β) (list : List α) (x : α) :
    secondsBy key (list ++ [x]) =
      secondsBy key list ++ if list.countP (key · = key x) = 1 then [x] else [] := by
  have hbefore : ∀ entry ∈ list.zipIdx, (list ++ [x]).take entry.2 = list.take entry.2 := by
    intro entry hentry
    have hindex := List.snd_lt_of_mem_zipIdx hentry
    exact List.take_append_of_le_length (by omega)
  have hfilter : (list.zipIdx.filter fun (y, index) =>
      ((list ++ [x]).take index).countP (key · = key y) = 1) =
        list.zipIdx.filter fun (y, index) => (list.take index).countP (key · = key y) = 1 :=
    List.filter_congr fun entry hentry => by simp only [hbefore entry hentry]
  unfold secondsBy
  rw [List.zipIdx_append, List.filter_append, List.map_append, hfilter]
  by_cases h : list.countP (key · = key x) = 1 <;> simp [h]

/-- What is second stays second, and what comes later stands behind it. -/
theorem secondsBy_append (key : α → β) (list more : List α) :
    secondsBy key list <+: secondsBy key (list ++ more) := by
  induction more using List.reverseRecOn with
  | nil => exact (List.append_nil list).symm ▸ List.prefix_rfl
  | append_singleton more x ih =>
    rw [← List.append_assoc, secondsBy_concat]
    exact ih.trans (List.prefix_append _ _)

/-- What a search for repeated members remembers of those before: `seen` are the ones that have
occurred, `again` the ones that have occurred more than once. -/
structure Remembers (before seen again : List β) : Prop where
  seen : ∀ x, x ∈ seen ↔ 1 ≤ before.count x
  again : ∀ x, x ∈ again ↔ 2 ≤ before.count x

namespace Remembers

variable {before seen again : List β} {x : β}

theorem known (h : Remembers before seen again) (hx : x ∈ again) :
    Remembers (before ++ [x]) seen again := by
  have hcount := (h.again x).mp hx
  constructor
  · intro y
    rw [h.seen, List.count_append, List.count_singleton]
    grind
  · intro y
    rw [h.again, List.count_append, List.count_singleton]
    grind

theorem second (h : Remembers before seen again) (hx : x ∈ seen) :
    Remembers (before ++ [x]) seen (x :: again) := by
  have hcount := (h.seen x).mp hx
  constructor
  · intro y
    rw [h.seen, List.count_append, List.count_singleton]
    grind
  · intro y
    rw [List.mem_cons, h.again, List.count_append, List.count_singleton]
    grind

theorem first (h : Remembers before seen again) (hx : x ∉ seen) :
    Remembers (before ++ [x]) (x :: seen) again := by
  have hcount : before.count x = 0 := Nat.lt_one_iff.mp (Nat.lt_of_not_ge (mt (h.seen x).mpr hx))
  constructor
  · intro y
    rw [List.mem_cons, h.seen, List.count_append, List.count_singleton]
    grind
  · intro y
    rw [h.again, List.count_append, List.count_singleton]
    grind

end Remembers

/-- The last member is repeated if it has occurred once. -/
theorem repeatedFrom_concat {before seen again : List β} (h : Remembers before seen again)
    (list : List β) (x : β) :
    repeatedFrom seen again (list ++ [x]) =
      repeatedFrom seen again list ++ if (before ++ list).count x = 1 then [x] else [] := by
  induction list generalizing before seen again with
  | nil =>
    have hone : before.count x = 1 ↔ x ∈ seen ∧ x ∉ again := by
      rw [h.seen, h.again]
      omega
    rw [List.append_nil]
    simp only [hone]
    by_cases hseen : x ∈ seen <;> by_cases hagain : x ∈ again <;>
      simp [repeatedFrom, hseen, hagain]
  | cons y rest ih =>
    rw [List.append_cons before y rest, List.cons_append, repeatedFrom, repeatedFrom]
    split
    · rename_i hagain
      exact ih (h.known hagain)
    · split
      · rename_i hseen
        rw [ih (h.second hseen), List.cons_append]
      · rename_i hseen
        exact ih (h.first hseen)

theorem repeated_concat (list : List β) (x : β) :
    repeated (list ++ [x]) = repeated list ++ if list.count x = 1 then [x] else [] := by
  have hnothing : Remembers ([] : List β) [] [] := ⟨by simp, by simp⟩
  exact repeatedFrom_concat hnothing list x

/-- Keys are repeated where they occur for the second time. -/
theorem repeated_map (key : α → β) (list : List α) :
    repeated (list.map key) = (secondsBy key list).map key := by
  induction list using List.reverseRecOn with
  | nil => rfl
  | append_singleton list x ih =>
    have hcount : (list.map key).count (key x) = list.countP (key · = key x) := by
      rw [List.count_eq_countP, List.countP_map]
      rfl
    rw [List.map_append, List.map_singleton, repeated_concat, ih, hcount, secondsBy_concat,
      List.map_append]
    split <;> rfl

end Seconds

/-! ## Modules -/

namespace ClientModule

/-- The functions of a module that are the second of their name. -/
def secondFunctions (module : ClientModule) : List ClientFunction :=
  secondsBy (·.name) module.functions

/-- Two or more functions of a module have the name. -/
def Shares (module : ClientModule) (name : String) : Prop :=
  2 ≤ module.functions.countP (·.name = name)

instance (module : ClientModule) (name : String) : Decidable (module.Shares name) :=
  inferInstanceAs (Decidable (2 ≤ _))

theorem clashes_eq (module : ClientModule) :
    module.clashes = module.secondFunctions.map fun function =>
      .duplicateFunctionName module.name function.name := by
  unfold clashes secondFunctions
  rw [repeated_map, List.map_map]
  rfl

/-- A new function is a clash if the module has exactly one function of its name. -/
theorem clashes_push (module : ClientModule) (function : ClientFunction) :
    (module.push function).clashes =
      module.clashes ++
        if module.functions.countP (·.name = function.name) = 1 then
          [.duplicateFunctionName module.name function.name]
        else [] := by
  rw [clashes_eq, clashes_eq]
  unfold secondFunctions push
  rw [secondsBy_concat, List.map_append]
  split <;> rfl

theorem mem_clashes {module : ClientModule} {warning : Warning} :
    warning ∈ module.clashes ↔
      ∃ name, module.Shares name ∧ warning = .duplicateFunctionName module.name name := by
  unfold clashes Shares
  simp only [List.mem_map, mem_repeated_iff, List.count_eq_countP, List.countP_map]
  exact exists_congr fun name => and_congr Iff.rfl eq_comm

theorem nodup_clashes (module : ClientModule) : module.clashes.Nodup := by
  unfold clashes
  refine (nodup_repeatedFrom [] [] _).map ?_
  intro first second h
  injection h

end ClientModule

/-- A name that clashes is reported once for its module, and no other name is. -/
theorem count_clashes {modules : List ClientModule} (h : (modules.map (·.name)).Nodup)
    (module name : String) :
    (modules.flatMap (·.clashes)).count (.duplicateFunctionName module name) =
      if ∃ held ∈ modules, held.name = module ∧ held.Shares name then 1 else 0 := by
  have hnodup : (modules.flatMap (·.clashes)).Nodup := by
    refine List.nodup_flatMap.mpr ⟨fun held _ => held.nodup_clashes, ?_⟩
    refine (List.pairwise_map.mp h).imp fun {first second} hne warning hfirst hsecond => ?_
    obtain ⟨_, -, rfl⟩ := ClientModule.mem_clashes.mp hfirst
    obtain ⟨_, -, hsame⟩ := ClientModule.mem_clashes.mp hsecond
    injection hsame with hname
    exact hne hname
  have hmem : Warning.duplicateFunctionName module name ∈ modules.flatMap (·.clashes) ↔
      ∃ held ∈ modules, held.name = module ∧ held.Shares name := by
    simp only [List.mem_flatMap, ClientModule.mem_clashes, Warning.duplicateFunctionName.injEq]
    refine exists_congr fun held => and_congr_right fun _ => ?_
    constructor
    · rintro ⟨_, hshares, rfl, rfl⟩
      exact ⟨rfl, hshares⟩
    · rintro ⟨rfl, hshares⟩
      exact ⟨name, hshares, rfl, rfl⟩
  rw [hnodup.count]
  simp only [hmem]

/-! ## Runs -/

/-- What is said about a step is never that names clash. -/
theorem Step.not_breaksModule {spell : List Char → List Char} {step : Step} {warning : Warning}
    (h : warning ∈ step.warnings spell) : ¬ warning.breaksModule := by
  cases step with
  | addPath path item =>
    have hrejection : rejection spell path = some warning := Option.mem_toList.mp h
    unfold rejection at hrejection
    split at hrejection
    · cases hrejection
      exact Bool.false_ne_true
    · split at hrejection
      · cases hrejection
        exact Bool.false_ne_true
      · cases hrejection
  | insert module function => cases h

namespace Grouping

/-- A module of the grouping has two or more functions of a name. -/
def Clash (grouping : Grouping) (module name : String) : Prop :=
  ∃ held ∈ grouping.modules, held.name = module ∧ held.Shares name

instance (grouping : Grouping) (module name : String) : Decidable (grouping.Clash module name) :=
  inferInstanceAs (Decidable (∃ held ∈ grouping.modules, held.name = module ∧ held.Shares name))

variable (spell : List Char → List Char) (parse : List Char → Option MediaType)

/-- What is said at the end of a run. First comes what was said about its paths, in its order. Then,
module by module, comes each function that is the second of its name. So every clash is reported
once, and nothing else is reported as one. -/
structure ReportsClashes (steps : List Step) : Prop where
  warnings : (run spell parse steps).finish.warnings = steps.flatMap (·.warnings spell) ++
    (run spell parse steps).modules.flatMap fun module =>
      module.secondFunctions.map fun function =>
        .duplicateFunctionName module.name function.name
  once : ∀ module name,
    (run spell parse steps).finish.warnings.count (.duplicateFunctionName module name) =
      if (run spell parse steps).Clash module name then 1 else 0

theorem reportsClashes (steps : List Step) : ReportsClashes spell parse steps where
  warnings := by
    unfold finish
    rw [warnings_run]
    simp only [ClientModule.clashes_eq]
  once := by
    intro module name
    have hpaths : (steps.flatMap (·.warnings spell)).count
        (.duplicateFunctionName module name) = 0 := by
      refine List.count_eq_zero.mpr fun h => ?_
      obtain ⟨step, -, hstep⟩ := List.mem_flatMap.mp h
      exact Step.not_breaksModule hstep rfl
    unfold finish
    rw [warnings_run, List.count_append, hpaths, count_clashes (nodup_names_run spell parse steps)]
    exact Nat.zero_add _

/-- What is said at the end of a run about the names that clash is exact, and it is said in the
order in which they came to clash: what is said of a module after a part of the run is the
beginning of what is said of it at the end. -/
theorem finish_run_clashes {steps earlier : List Step} (h : earlier <+: steps) :
    ReportsClashes spell parse steps ∧ ReportsClashes spell parse earlier ∧
      ∀ (i : Nat) (module : ClientModule),
        (run spell parse earlier).modules[i]? = some module →
          ∃ held, (run spell parse steps).modules[i]? = some held ∧ held.name = module.name ∧
            module.secondFunctions <+: held.secondFunctions := by
  refine ⟨reportsClashes spell parse steps, reportsClashes spell parse earlier,
    fun i module hmodule => ?_⟩
  obtain ⟨later, rfl⟩ := h
  have hextends := extends_steps spell parse (run spell parse earlier) later
  obtain ⟨more, hheld⟩ := hextends i module hmodule
  rw [run, List.foldl_append]
  exact ⟨_, hheld, rfl, secondsBy_append _ _ _⟩

/-- One operation. -/
def reading : PathItem := .ofList [(.get, {})]

/-- Two names that clash in one module. The one that comes first is the second to clash, because in
between it only comes again as it was; the other one comes a third time. -/
def interleavedSteps : List Step :=
  [.addPath "/pets/list" reading, .addPath "/pets/by-id" reading, .addPath "/health" reading,
    .addPath "/pets/list" reading, .addPath "/pets/by_id" reading, .addPath "/shop/list" reading,
    .insert "pets" (.ofOperation Text.latin MediaType.ofText? "list" .get "/pets/List" {}),
    .addPath "/pets/byId" reading]

theorem finish_run_clashes_interleaved :
    let run := run Text.latin MediaType.ofText?
    interleavedSteps.take 5 <+: interleavedSteps ∧
      ReportsClashes Text.latin MediaType.ofText? interleavedSteps ∧
      (run interleavedSteps).finish.warnings =
        [.skippedPath "/health" 1, .duplicateFunctionName "pets" "byId",
          .duplicateFunctionName "pets" "list"] ∧
      ∃ early held, (run (interleavedSteps.take 5)).modules[0]? = some early ∧
        (run interleavedSteps).modules[0]? = some held ∧
        early.secondFunctions <+: held.secondFunctions ∧
        early.secondFunctions.map (·.name) = ["byId"] ∧
        held.secondFunctions.map (·.name) = ["byId", "list"] := by
  intro run
  have hearlier : interleavedSteps.take 5 <+: interleavedSteps := List.take_prefix 5 _
  obtain ⟨hreports, -, hstage⟩ := finish_run_clashes Text.latin MediaType.ofText? hearlier
  have hnames : ((run (interleavedSteps.take 5)).modules[0]?).map
      (fun module => module.secondFunctions.map (·.name)) = some ["byId"] ∧
      ((run interleavedSteps).modules[0]?).map
        (fun module => module.secondFunctions.map (·.name)) = some ["byId", "list"] := by
    decide +kernel
  obtain ⟨early, hearly, hbefore⟩ := Option.map_eq_some_iff.mp hnames.1
  obtain ⟨held, hheld, -, hprefix⟩ := hstage 0 early hearly
  have hafter := hnames.2
  rw [hheld] at hafter
  exact ⟨hearlier, hreports, by decide +kernel, early, held, hearly, hheld, hprefix, hbefore,
    Option.some.inj hafter⟩

end Grouping

end OpenApiClient.Client
