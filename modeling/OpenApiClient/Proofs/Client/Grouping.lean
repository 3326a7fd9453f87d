import Mathlib.Data.List.Induction
import Mathlib.Data.List.Nodup
import OpenApiClient.Client.Grouping

/-!
# What a grouping holds

A grouping grows by one function at a time. Whatever has been added, its modules are the names
in the order of their first use, and under each name stand the functions that were added there,
each at its first place.

Results:
* `modules_insertAll`: the modules after any number of functions.
* `size_insertAll`: every function is either kept or counted as a duplicate.
* `duplicates_insertAll`: functions with different identities are all kept.
* `addPaths_eq`: adding paths is adding their functions and their warnings.
* `modules_ofPaths`, `size_ofPaths`, `warnings_ofPaths`: the grouping of a table of paths.
-/
namespace OpenApiClient.Client

/-! ## First occurrences -/

section Firsts

variable {α β : Type} [DecidableEq β]

/-- The members of a list whose key no earlier member has. -/
def firstsBy (key : α → β) (list : List α) : List α :=
  list.foldl (fun kept x => if key x ∈ kept.map key then kept else kept ++ [x]) []

theorem firstsBy_concat (key : α → β) (list : List α) (x : α) :
    firstsBy key (list ++ [x]) =
      if key x ∈ (firstsBy key list).map key then firstsBy key list
      else firstsBy key list ++ [x] := by
  rw [firstsBy, List.foldl_append]
  rfl

theorem eraseDups_concat (list : List β) (x : β) :
    (list ++ [x]).eraseDups = if x ∈ list then list.eraseDups else list.eraseDups ++ [x] := by
  rw [List.eraseDups_append]
  by_cases h : x ∈ list <;> simp [h, List.removeAll, List.eraseDups_cons]

theorem nodup_eraseDups (list : List β) : list.eraseDups.Nodup := by
  induction list using List.reverseRecOn with
  | nil => simp
  | append_singleton list x ih =>
    rw [eraseDups_concat]
    split
    · exact ih
    · rename_i hx
      rw [List.nodup_append]
      refine ⟨ih, by simp, ?_⟩
      intro a ha b hb
      rw [List.mem_singleton] at hb
      rw [List.mem_eraseDups] at ha
      exact fun e => hx (hb ▸ e ▸ ha)

/-- Each key is kept once, where it first occurs. -/
theorem map_firstsBy (key : α → β) (list : List α) :
    (firstsBy key list).map key = (list.map key).eraseDups := by
  induction list using List.reverseRecOn with
  | nil => rfl
  | append_singleton list x ih =>
    have hx : key x ∈ (firstsBy key list).map key ↔ key x ∈ list.map key := by
      rw [ih, List.mem_eraseDups]
    simp only [firstsBy_concat, hx, List.map_append, List.map_singleton, eraseDups_concat]
    split
    · exact ih
    · rw [List.map_append, List.map_singleton, ih]

/-- No key is lost. -/
theorem mem_map_firstsBy {key : α → β} {list : List α} {k : β} :
    k ∈ (firstsBy key list).map key ↔ k ∈ list.map key := by
  rw [map_firstsBy, List.mem_eraseDups]

/-- What is kept is the first member with its key. -/
theorem find?_of_mem_firstsBy {key : α → β} {list : List α} {x : α}
    (h : x ∈ firstsBy key list) : list.find? (fun y => key y = key x) = some x := by
  induction list using List.reverseRecOn with
  | nil => cases h
  | append_singleton list y ih =>
    rw [firstsBy_concat] at h
    rw [List.find?_append]
    split at h
    · rw [ih h, Option.some_or]
    · rename_i hy
      rcases List.mem_append.mp h with h | h
      · rw [ih h, Option.some_or]
      · obtain rfl := List.mem_singleton.mp h
        have hnone : list.find? (fun z => key z = key x) = none := by
          rw [List.find?_eq_none]
          intro z hz hkey
          refine hy (mem_map_firstsBy.mpr (List.mem_map.mpr ⟨z, hz, ?_⟩))
          exact of_decide_eq_true hkey
        rw [hnone, Option.none_or]
        exact List.find?_cons_of_pos (decide_eq_true rfl)

/-- Keys that tell the same members apart keep the same members. -/
theorem firstsBy_congr {γ : Type} [DecidableEq γ] {key : α → β} {other : α → γ} {list : List α}
    (h : ∀ x ∈ list, ∀ y ∈ list, key x = key y ↔ other x = other y) :
    firstsBy key list = firstsBy other list := by
  induction list using List.reverseRecOn with
  | nil => rfl
  | append_singleton list x ih =>
    have hlist := ih fun y hy z hz =>
      h y (List.mem_append_left _ hy) z (List.mem_append_left _ hz)
    have hx : key x ∈ list.map key ↔ other x ∈ list.map other := by
      simp only [List.mem_map]
      refine exists_congr fun y => and_congr_right fun hy => ?_
      exact h y (List.mem_append_left _ hy) x (List.mem_append_right _ (List.mem_singleton_self x))
    rw [firstsBy_concat, firstsBy_concat]
    simp only [mem_map_firstsBy, hx]
    rw [hlist]

theorem mem_of_mem_firstsBy {key : α → β} {list : List α} {x : α} (h : x ∈ firstsBy key list) :
    x ∈ list :=
  List.mem_of_find?_eq_some (find?_of_mem_firstsBy h)

/-- Where all keys differ, nothing is left out. -/
theorem firstsBy_of_nodup {key : α → β} {list : List α} (h : (list.map key).Nodup) :
    firstsBy key list = list := by
  induction list using List.reverseRecOn with
  | nil => rfl
  | append_singleton list x ih =>
    rw [List.map_append, List.map_singleton, List.nodup_append] at h
    obtain ⟨hlist, -, hx⟩ := h
    have hnew : key x ∉ list.map key := fun hm => hx _ hm _ (List.mem_singleton_self _) rfl
    rw [firstsBy_concat, if_neg (by rwa [mem_map_firstsBy]), ih hlist]

end Firsts

/-! ## Repeated names -/

theorem repeatedFrom_eq_nil_iff {α : Type} [DecidableEq α] {seen list : List α} :
    repeatedFrom seen [] list = [] ↔ list.Nodup ∧ ∀ x ∈ list, x ∉ seen := by
  induction list generalizing seen with
  | nil => simp [repeatedFrom]
  | cons x rest ih =>
    rw [repeatedFrom, if_neg List.not_mem_nil, List.nodup_cons]
    split
    · rename_i hx
      simp [hx]
    · rename_i hx
      rw [ih, List.forall_mem_cons]
      simp only [List.mem_cons, not_or]
      constructor
      · rintro ⟨hrest, hseen⟩
        exact ⟨⟨fun hm => (hseen x hm).1 rfl, hrest⟩, hx, fun y hy => (hseen y hy).2⟩
      · rintro ⟨⟨hnot, hrest⟩, -, hseen⟩
        exact ⟨hrest, fun y hy => ⟨fun e => hnot (e ▸ hy), hseen y hy⟩⟩

/-- Nothing is repeated exactly if no member occurs twice. -/
theorem repeated_eq_nil_iff {α : Type} [DecidableEq α] {list : List α} :
    repeated list = [] ↔ list.Nodup := by
  rw [repeated, repeatedFrom_eq_nil_iff]
  simp

/-- A member is given if it occurs again, either because it has occurred before or because the
list has it twice, unless it has been given already. -/
theorem mem_repeatedFrom_iff {α : Type} [DecidableEq α] {seen again list : List α} {x : α} :
    x ∈ repeatedFrom seen again list ↔
      x ∉ again ∧ x ∈ list ∧ (x ∈ seen ∨ 2 ≤ list.count x) := by
  induction list generalizing seen again with
  | nil => simp [repeatedFrom]
  | cons y rest ih =>
    rw [repeatedFrom]
    split
    · rename_i hagain
      rw [ih]
      by_cases hxy : x = y
      · simp [hxy, hagain]
      · simp [hxy, List.count_cons_of_ne (Ne.symm hxy)]
    · rename_i hagain
      split
      · rename_i hseen
        rw [List.mem_cons, ih]
        by_cases hxy : x = y
        · simp [hxy, hagain, hseen]
        · simp [hxy, List.count_cons_of_ne (Ne.symm hxy)]
      · rename_i hseen
        rw [ih]
        by_cases hxy : x = y
        · subst hxy
          simp [hagain, hseen, List.one_le_count_iff]
        · simp [hxy, List.count_cons_of_ne (Ne.symm hxy)]

theorem nodup_repeatedFrom {α : Type} [DecidableEq α] (seen again list : List α) :
    (repeatedFrom seen again list).Nodup := by
  induction list generalizing seen again with
  | nil => exact List.nodup_nil
  | cons y rest ih =>
    rw [repeatedFrom]
    split
    · exact ih seen again
    · split
      · refine List.nodup_cons.mpr ⟨fun h => ?_, ih seen (y :: again)⟩
        exact (mem_repeatedFrom_iff.mp h).1 List.mem_cons_self
      · exact ih (y :: seen) again

/-- What is repeated are the members that the list has twice or more often. -/
theorem mem_repeated_iff {α : Type} [DecidableEq α] {list : List α} {x : α} :
    x ∈ repeated list ↔ 2 ≤ list.count x := by
  rw [repeated, mem_repeatedFrom_iff]
  constructor
  · rintro ⟨-, -, h | h⟩
    · cases h
    · exact h
  · exact fun h => ⟨List.not_mem_nil, List.count_pos_iff.mp (by omega), .inr h⟩

/-! ## One more function -/

/-- A function with the name of the module that it goes into. -/
structure Placement where
  module : String
  function : ClientFunction

/-- A module of a new name comes last. -/
theorem insertInto_new {name : String} {function : ClientFunction} {modules : List ClientModule}
    (h : ∀ module ∈ modules, module.name ≠ name) :
    insertInto name function modules = (modules ++ [⟨name, [function]⟩], true) := by
  induction modules with
  | nil => rfl
  | cons module rest ih =>
    rw [List.forall_mem_cons] at h
    simp only [insertInto, if_neg h.1, ih h.2, List.cons_append]

/-- Only the module of the name changes, and only if the function is new there. -/
theorem insertInto_known {name : String} {function : ClientFunction}
    {before after : List ClientModule} {module : ClientModule}
    (hbefore : ∀ module ∈ before, module.name ≠ name) (hname : module.name = name) :
    insertInto name function (before ++ module :: after) =
      if module.has function then (before ++ module :: after, false)
      else (before ++ module.push function :: after, true) := by
  induction before with
  | nil => simp only [List.nil_append, insertInto, if_pos hname]
  | cons first before ih =>
    rw [List.forall_mem_cons] at hbefore
    simp only [List.cons_append, insertInto, if_neg hbefore.1, ih hbefore.2]
    split <;> rfl

theorem has_iff {module : ClientModule} {function : ClientFunction} :
    module.has function ↔ function.identity ∈ module.functions.map (·.identity) := by
  simp [ClientModule.has]

/-! ## Any number of functions -/

/-- The functions that go into a module, in order. -/
def functionsFor (placements : List Placement) (module : String) : List ClientFunction :=
  (placements.filter (·.module = module)).map (·.function)

/-- A module with the functions that go into it, each at its first place. -/
def moduleFor (placements : List Placement) (name : String) : ClientModule :=
  ⟨name, firstsBy (·.identity) (functionsFor placements name)⟩

/-- The modules for functions, in the order in which their names are first used. -/
def modulesFor (placements : List Placement) : List ClientModule :=
  (placements.map (·.module)).eraseDups.map (moduleFor placements)

theorem mem_functionsFor {placements : List Placement} {name : String}
    {function : ClientFunction} :
    function ∈ functionsFor placements name ↔ ⟨name, function⟩ ∈ placements := by
  unfold functionsFor
  simp only [List.mem_map, List.mem_filter, decide_eq_true_eq]
  constructor
  · rintro ⟨⟨_, _⟩, ⟨hm, rfl⟩, rfl⟩; exact hm
  · exact fun hm => ⟨_, ⟨hm, rfl⟩, rfl⟩

theorem functionsFor_concat (placements : List Placement) (last : Placement) (name : String) :
    functionsFor (placements ++ [last]) name =
      if last.module = name then functionsFor placements name ++ [last.function]
      else functionsFor placements name := by
  unfold functionsFor
  rw [List.filter_append, List.map_append]
  split <;> rename_i h <;> simp [h]

theorem functionsFor_eq_nil {placements : List Placement} {name : String}
    (h : name ∉ placements.map (·.module)) : functionsFor placements name = [] := by
  unfold functionsFor
  rw [List.map_eq_nil_iff, List.filter_eq_nil_iff]
  intro placement hm hname
  exact h (List.mem_map.mpr ⟨placement, hm, by simpa using hname⟩)

theorem moduleFor_concat_self (placements : List Placement) (last : Placement) :
    moduleFor (placements ++ [last]) last.module =
      if (moduleFor placements last.module).has last.function then
        moduleFor placements last.module
      else (moduleFor placements last.module).push last.function := by
  simp only [moduleFor, functionsFor_concat, if_true, firstsBy_concat, has_iff,
    ClientModule.push]
  split <;> rfl

/-- A function changes no module but its own. -/
theorem map_moduleFor_concat {placements : List Placement} {last : Placement}
    {names : List String} (h : last.module ∉ names) :
    names.map (moduleFor (placements ++ [last])) = names.map (moduleFor placements) := by
  refine List.map_congr_left fun name hname => ?_
  have hne : last.module ≠ name := fun e => h (e ▸ hname)
  simp only [moduleFor, functionsFor_concat, if_neg hne]

theorem name_ne_of_mem_map {placements : List Placement} {names : List String} {name : String}
    (h : name ∉ names) : ∀ module ∈ names.map (moduleFor placements), module.name ≠ name := by
  intro module hm e
  obtain ⟨other, hother, rfl⟩ := List.mem_map.mp hm
  exact h (e ▸ hother)

/-- Adding a function to the modules for those before it gives the modules for all of them. The
function is new if none of those in its module has its identity. -/
theorem insertInto_modulesFor (placements : List Placement) (last : Placement) :
    insertInto last.module last.function (modulesFor placements) =
      (modulesFor (placements ++ [last]),
        decide (last.function.identity ∉
          (functionsFor placements last.module).map (·.identity))) := by
  unfold modulesFor
  rw [List.map_append, List.map_singleton, eraseDups_concat]
  by_cases hm : last.module ∈ placements.map (·.module)
  · -- the module is there, between modules of other names
    obtain ⟨before, after, hnames⟩ := List.append_of_mem (List.mem_eraseDups.mpr hm)
    have hnodup := nodup_eraseDups (placements.map (·.module))
    rw [hnames, List.nodup_middle, List.nodup_cons, List.mem_append, not_or] at hnodup
    obtain ⟨⟨hbefore, hafter⟩, -⟩ := hnodup
    have hhas : (moduleFor placements last.module).has last.function = true ↔
        last.function.identity ∈ (functionsFor placements last.module).map (·.identity) := by
      rw [has_iff]; exact mem_map_firstsBy
    rw [if_pos hm, hnames, List.map_append, List.map_cons,
      insertInto_known (name_ne_of_mem_map hbefore) rfl, List.map_append, List.map_cons,
      map_moduleFor_concat hbefore, map_moduleFor_concat hafter, moduleFor_concat_self]
    simp only [hhas]
    split <;> rename_i hk <;> simp [hk]
  · have hnil := functionsFor_eq_nil hm
    have hnew : last.module ∉ (placements.map (·.module)).eraseDups := by
      rwa [List.mem_eraseDups]
    have hlast : moduleFor (placements ++ [last]) last.module =
        ⟨last.module, [last.function]⟩ := by
      simp [moduleFor, functionsFor_concat, hnil, firstsBy]
    rw [if_neg hm, insertInto_new (name_ne_of_mem_map hnew), List.map_append,
      List.map_singleton, map_moduleFor_concat hnew, hlast, hnil]
    simp

/-- No module is without functions: its name was used for one. -/
theorem functions_ne_nil_of_mem_modulesFor {placements : List Placement} {module : ClientModule}
    (h : module ∈ modulesFor placements) : module.functions ≠ [] := by
  obtain ⟨name, hname, rfl⟩ := List.mem_map.mp h
  obtain ⟨placement, hplacement, rfl⟩ := List.mem_map.mp (List.mem_eraseDups.mp hname)
  have hfirst : placement.function.identity ∈
      (moduleFor placements placement.module).functions.map (·.identity) :=
    mem_map_firstsBy.mpr (List.mem_map_of_mem (mem_functionsFor.mpr hplacement))
  exact fun e => by rw [e] at hfirst; cases hfirst

namespace Grouping

/-- Adds functions one after the other. -/
def insertAll (grouping : Grouping) (placements : List Placement) : Grouping :=
  placements.foldl
    (fun grouping placement => (grouping.insert placement.module placement.function).1) grouping

theorem insertAll_append (grouping : Grouping) (first second : List Placement) :
    grouping.insertAll (first ++ second) = (grouping.insertAll first).insertAll second :=
  List.foldl_append

/-- Nothing is said about a function. -/
theorem warnings_insertAll (grouping : Grouping) (placements : List Placement) :
    (grouping.insertAll placements).warnings = grouping.warnings := by
  induction placements generalizing grouping with
  | nil => rfl
  | cons placement rest ih => exact ih (grouping.insert placement.module placement.function).1

/-- The modules after any number of functions. -/
theorem modules_insertAll (placements : List Placement) :
    (({} : Grouping).insertAll placements).modules = modulesFor placements := by
  induction placements using List.reverseRecOn with
  | nil => rfl
  | append_singleton placements last ih =>
    rw [insertAll_append]
    show (insertInto last.module last.function _).1 = _
    rw [ih, insertInto_modulesFor]

/-- Where the functions of each module have different identities, none is a duplicate. -/
theorem duplicates_insertAll {placements : List Placement}
    (h : ∀ name, ((functionsFor placements name).map (·.identity)).Nodup) :
    (({} : Grouping).insertAll placements).duplicates = 0 := by
  induction placements using List.reverseRecOn with
  | nil => rfl
  | append_singleton placements last ih =>
    have hbefore : ∀ name, ((functionsFor placements name).map (·.identity)).Nodup := by
      intro name
      have hname := h name
      rw [functionsFor_concat] at hname
      split at hname
      · rw [List.map_append] at hname; exact hname.of_append_left
      · exact hname
    have hnew : last.function.identity ∉
        (functionsFor placements last.module).map (·.identity) := by
      have hname := h last.module
      rw [functionsFor_concat, if_pos rfl, List.map_append, List.map_singleton] at hname
      exact List.disjoint_singleton.mp (List.disjoint_of_nodup_append hname)
    rw [insertAll_append]
    show (if (insertInto last.module last.function _).2 then
      (({} : Grouping).insertAll placements).duplicates else _) = 0
    rw [modules_insertAll, insertInto_modulesFor, ih hbefore, decide_eq_true hnew]
    rfl

end Grouping

/-- The functions of all modules are one more if the function is new. -/
theorem size_insertInto (name : String) (function : ClientFunction)
    (modules : List ClientModule) :
    (insertInto name function modules).1.foldr
        (fun module rest => module.functions.length + rest) 0 =
      modules.foldr (fun module rest => module.functions.length + rest) 0 +
        if (insertInto name function modules).2 then 1 else 0 := by
  induction modules with
  | nil => rfl
  | cons module rest ih =>
    unfold insertInto
    split
    · split
      · simp
      · simp [ClientModule.push]; omega
    · simp only [List.foldr_cons, ih]; omega

namespace Grouping

/-- Every function is either kept or counted as a duplicate. -/
theorem size_insertAll (grouping : Grouping) (placements : List Placement) :
    (grouping.insertAll placements).size + (grouping.insertAll placements).duplicates =
      grouping.size + grouping.duplicates + placements.length := by
  induction placements generalizing grouping with
  | nil => rfl
  | cons placement rest ih =>
    have hstep : (grouping.insert placement.module placement.function).1.size +
        (grouping.insert placement.module placement.function).1.duplicates =
          grouping.size + grouping.duplicates + 1 := by
      simp only [insert, size, size_insertInto]
      split <;> omega
    show ((grouping.insert _ _).1.insertAll rest).size +
      ((grouping.insert _ _).1.insertAll rest).duplicates = _
    rw [ih, hstep, List.length_cons]
    omega

end Grouping

/-! ## Paths -/

theorem splitPath_eq_some_iff_segments {path first second : String} :
    splitPath path = some (first, second) ↔ segments path = [first, second] := by
  unfold splitPath
  split
  · rename_i hsegments
    simp [hsegments]
  · rename_i hother
    exact iff_of_false (by simp) (hother first second)

variable (spell : List Char → List Char) (parse : List Char → Option MediaType)

/-- The functions for the operations of a path; none if the path is left out. -/
def placements (path : String) (item : PathItem) : List Placement :=
  match functionOfPath spell path with
  | none => []
  | some (module, name) =>
    item.entries.map fun (method, operation) =>
      ⟨module, .ofOperation spell parse name method path operation⟩

/-- Why a path is left out, if it is. -/
def rejection (path : String) : Option Warning :=
  match splitPath path with
  | none => some (.skippedPath path (segments path).length)
  | some (_, segment) =>
    if Naming.functionNameBy spell segment = "" then some (.emptyFunctionName path segment)
    else none

/-- The functions for all paths in their order. -/
def allPlacements (paths : Keyed String PathItem) : List Placement :=
  paths.entries.flatMap fun (path, item) => placements spell parse path item

/-- A path names a function if it has exactly two parts that are not empty, and something of the
second is left as a name. -/
def NamesFunction (path : String) : Prop :=
  ∃ module segment, segments path = [module, segment] ∧ Naming.functionNameBy spell segment ≠ ""

section

variable {spell} {path : String}

theorem rejection_eq_none_iff :
    rejection spell path = none ↔ (functionOfPath spell path).isSome := by
  unfold rejection functionOfPath
  cases splitPath path with
  | none => simp
  | some names => by_cases h : Naming.functionNameBy spell names.2 = "" <;> simp [h]

/-- The function that a path names is named after the second of its two parts. -/
theorem functionOfPath_eq_some_iff {module name : String} :
    functionOfPath spell path = some (module, name) ↔
      ∃ segment, segments path = [module, segment] ∧
        Naming.functionNameBy spell segment = name ∧ name ≠ "" := by
  unfold functionOfPath
  simp only [← splitPath_eq_some_iff_segments]
  cases splitPath path with
  | none => simp
  | some names =>
    obtain ⟨first, segment⟩ := names
    by_cases h : Naming.functionNameBy spell segment = ""
    · simp only [h, if_true, reduceCtorEq, false_iff, not_exists]
      rintro other ⟨hsplit, rfl, hne⟩
      cases hsplit
      exact hne h
    · simp only [if_neg h, Option.some.injEq, Prod.mk.injEq]
      constructor
      · rintro ⟨rfl, rfl⟩
        exact ⟨segment, ⟨rfl, rfl⟩, rfl, h⟩
      · rintro ⟨other, ⟨hfirst, rfl⟩, hname, -⟩
        exact ⟨hfirst, hname⟩

theorem namesFunction_iff : NamesFunction spell path ↔ (functionOfPath spell path).isSome := by
  simp only [NamesFunction, Option.isSome_iff_exists, Prod.exists, functionOfPath_eq_some_iff]
  constructor
  · rintro ⟨module, segment, hsegments, hname⟩
    exact ⟨module, _, segment, hsegments, rfl, hname⟩
  · rintro ⟨module, _, segment, hsegments, rfl, hname⟩
    exact ⟨module, segment, hsegments, hname⟩

theorem rejection_eq_none_iff_names : rejection spell path = none ↔ NamesFunction spell path := by
  rw [rejection_eq_none_iff, namesFunction_iff]

end

instance (path : String) : Decidable (NamesFunction spell path) :=
  decidable_of_iff _ namesFunction_iff.symm

/-- A path that names a function has one for each of its operations. -/
theorem length_placements (path : String) (item : PathItem) :
    (placements spell parse path item).length =
      if NamesFunction spell path then item.size else 0 := by
  simp only [namesFunction_iff, placements]
  cases functionOfPath spell path with
  | none => rfl
  | some names => exact List.length_map _

namespace Grouping

/-- A grouping with more to be said. -/
def warnAll (grouping : Grouping) (warnings : List Warning) : Grouping :=
  { grouping with warnings := grouping.warnings ++ warnings }

theorem insertAll_warnAll (grouping : Grouping) (warnings : List Warning)
    (placements : List Placement) :
    (grouping.warnAll warnings).insertAll placements =
      (grouping.insertAll placements).warnAll warnings := by
  induction placements generalizing grouping with
  | nil => rfl
  | cons placement rest ih => exact ih (grouping.insert placement.module placement.function).1

theorem addPath_eq (grouping : Grouping) (path : String) (item : PathItem) :
    grouping.addPath spell parse path item =
      (grouping.insertAll (placements spell parse path item)).warnAll
        (rejection spell path).toList := by
  unfold addPath placements rejection functionOfPath
  cases splitPath path with
  | none => rfl
  | some names =>
    obtain ⟨module, segment⟩ := names
    by_cases hname : Naming.functionNameBy spell segment = ""
    · simp only [hname, if_true]; rfl
    · simp only [if_neg hname, insertAll, List.foldl_map, Option.toList_none, warnAll,
        List.append_nil]

/-- Adding paths is adding their functions, and what is to be said about them. -/
theorem addPaths_eq (grouping : Grouping) (paths : Keyed String PathItem) :
    grouping.addPaths spell parse paths =
      (grouping.insertAll (allPlacements spell parse paths)).warnAll
        (paths.entries.flatMap fun (path, _) => (rejection spell path).toList) := by
  unfold addPaths allPlacements
  induction paths.entries generalizing grouping with
  | nil => simp [insertAll, warnAll]
  | cons entry rest ih =>
    obtain ⟨path, item⟩ := entry
    rw [List.foldl_cons, ih, List.flatMap_cons, List.flatMap_cons, insertAll_append]
    simp only [addPath_eq, insertAll_warnAll]
    simp only [warnAll, List.append_assoc]

/-- The modules for a table of paths. -/
theorem modules_ofPaths (paths : Keyed String PathItem) :
    (ofPaths spell parse paths).modules = modulesFor (allPlacements spell parse paths) := by
  unfold ofPaths
  rw [addPaths_eq]
  exact modules_insertAll (allPlacements spell parse paths)

/-- Every function of a table of paths is either kept or counted as a duplicate. -/
theorem size_ofPaths (paths : Keyed String PathItem) :
    (ofPaths spell parse paths).size + (ofPaths spell parse paths).duplicates =
      (allPlacements spell parse paths).length := by
  have hkept := size_insertAll {} (allPlacements spell parse paths)
  unfold ofPaths
  rw [addPaths_eq]
  exact hkept.trans (Nat.zero_add _)

/-- What is to be said about a table of paths: which of them are left out, and which names the
modules have twice. -/
theorem warnings_ofPaths (paths : Keyed String PathItem) :
    (ofPaths spell parse paths).warnings =
      (paths.entries.flatMap fun (path, _) => (rejection spell path).toList) ++
        (ofPaths spell parse paths).modules.flatMap (·.clashes) := by
  unfold ofPaths finish
  rw [addPaths_eq]
  simp only [warnAll, warnings_insertAll, List.nil_append]

end Grouping

end OpenApiClient.Client
