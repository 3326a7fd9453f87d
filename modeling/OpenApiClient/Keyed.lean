/-!
# Keyed lists

Tables whose order shows: a list of keys with their values in which every key occurs once, at
the place where it was first put. Putting a known key replaces its value and keeps its place.

* `keys_put`: the keys after one more has been put.
* `Keyed.get?_insert`: what is found after one more has been put.
* `Keyed.ofList`: any list of pairs read as puts, one after the other.
-/
namespace OpenApiClient

variable {κ α β : Type}

/-- The pairs after `value` has been put under `key`. -/
def put [DecidableEq κ] (key : κ) (value : α) : List (κ × α) → List (κ × α)
  | [] => [(key, value)]
  | (k, v) :: rest => if k = key then (key, value) :: rest else (k, v) :: put key value rest

/-- The pairs of a list put one after the other. -/
def putAll [DecidableEq κ] (pairs : List (κ × α)) : List (κ × α) :=
  pairs.foldl (fun table pair => put pair.1 pair.2 table) []

/-- Putting a known key leaves the keys as they are; a new key comes last. -/
theorem keys_put [DecidableEq κ] (key : κ) (value : α) (pairs : List (κ × α)) :
    (put key value pairs).map (·.1) =
      if key ∈ pairs.map (·.1) then pairs.map (·.1) else pairs.map (·.1) ++ [key] := by
  induction pairs with
  | nil => simp [put]
  | cons pair rest ih =>
    obtain ⟨k, v⟩ := pair
    by_cases h : k = key
    · subst h; simp [put]
    · have h' : ¬ key = k := fun e => h e.symm
      by_cases hm : key ∈ rest.map (·.1)
      · simp only [put, if_neg h, List.map_cons, ih, if_pos hm]
        rw [if_pos (List.mem_cons_of_mem _ hm)]
      · simp only [put, if_neg h, List.map_cons, ih, if_neg hm]
        rw [if_neg (by simp only [List.mem_cons, not_or]; exact ⟨h', hm⟩)]
        rfl

/-- Nothing changes in front of a new key. -/
theorem put_of_notMem [DecidableEq κ] {key : κ} {pairs : List (κ × α)}
    (h : key ∉ pairs.map (·.1)) (value : α) : put key value pairs = pairs ++ [(key, value)] := by
  induction pairs with
  | nil => rfl
  | cons pair rest ih =>
    rw [List.map_cons, List.mem_cons, not_or] at h
    rw [put, if_neg (Ne.symm h.1), ih h.2, List.cons_append]

theorem nodup_keys_put [DecidableEq κ] (key : κ) (value : α) {pairs : List (κ × α)}
    (h : (pairs.map (·.1)).Nodup) : ((put key value pairs).map (·.1)).Nodup := by
  rw [keys_put]
  split
  · exact h
  · rename_i hm
    rw [List.nodup_append]
    refine ⟨h, by simp, ?_⟩
    intro a ha b hb
    rw [List.mem_singleton] at hb
    subst hb
    intro e
    exact hm (e ▸ ha)

theorem nodup_keys_foldl_put [DecidableEq κ] (pairs : List (κ × α)) :
    ∀ table : List (κ × α), (table.map (·.1)).Nodup →
      ((pairs.foldl (fun table pair => put pair.1 pair.2 table) table).map (·.1)).Nodup := by
  induction pairs with
  | nil => intro table h; exact h
  | cons pair rest ih => intro table h; exact ih _ (nodup_keys_put _ _ h)

/-- Putting a value changes what is found under its key, and nothing else. -/
theorem find?_put [DecidableEq κ] (key other : κ) (value : α) (pairs : List (κ × α)) :
    ((put key value pairs).find? (·.1 = other)).map (·.2) =
      if other = key then some value else (pairs.find? (·.1 = other)).map (·.2) := by
  induction pairs with
  | nil =>
    by_cases h : other = key
    · simp [put, h]
    · simp [put, h, Ne.symm h]
  | cons pair rest ih =>
    obtain ⟨k, v⟩ := pair
    rw [put]
    by_cases hk : k = key
    · subst hk
      by_cases h : other = k
      · simp [h]
      · simp [h, Ne.symm h]
    · by_cases h : k = other
      · subst h; simp [hk]
      · simpa [hk, h] using ih

/-- A table with an order: distinct keys and their values. -/
structure Keyed (κ α : Type) where
  entries : List (κ × α)
  nodup_keys : (entries.map (·.1)).Nodup

namespace Keyed

def empty : Keyed κ α := ⟨[], List.nodup_nil⟩

instance : Inhabited (Keyed κ α) := ⟨empty⟩

/-- The pairs put one after the other. -/
def ofList [DecidableEq κ] (pairs : List (κ × α)) : Keyed κ α :=
  ⟨putAll pairs, nodup_keys_foldl_put pairs [] List.nodup_nil⟩

/-- The table after one more value has been put. -/
def insert [DecidableEq κ] (key : κ) (value : α) (table : Keyed κ α) : Keyed κ α :=
  ⟨put key value table.entries, nodup_keys_put key value table.nodup_keys⟩

def keys (table : Keyed κ α) : List κ := table.entries.map (·.1)

def values (table : Keyed κ α) : List α := table.entries.map (·.2)

def size (table : Keyed κ α) : Nat := table.entries.length

def isEmpty (table : Keyed κ α) : Bool := table.entries.isEmpty

/-- The value under a key. -/
def get? [DecidableEq κ] (table : Keyed κ α) (key : κ) : Option α :=
  (table.entries.find? (·.1 = key)).map (·.2)

def contains [DecidableEq κ] (table : Keyed κ α) (key : κ) : Bool := (table.get? key).isSome

theorem get?_insert [DecidableEq κ] (table : Keyed κ α) (key other : κ) (value : α) :
    (table.insert key value).get? other =
      if other = key then some value else table.get? other :=
  find?_put key other value table.entries

theorem mem_values_of_get? [DecidableEq κ] {table : Keyed κ α} {key : κ} {value : α}
    (h : table.get? key = some value) : value ∈ table.values := by
  obtain ⟨entry, hentry, rfl⟩ := Option.map_eq_some_iff.mp h
  exact List.mem_map_of_mem (List.mem_of_find?_eq_some hentry)

/-- The table with every value replaced. -/
def map (f : α → β) (table : Keyed κ α) : Keyed κ β :=
  ⟨table.entries.map fun (k, v) => (k, f v), by
    have h : ∀ l : List (κ × α),
        (l.map fun (k, v) => (k, f v)).map (·.1) = l.map (·.1) := by
      intro l; simp
    rw [h]; exact table.nodup_keys⟩

theorem get?_map [DecidableEq κ] (f : α → β) (table : Keyed κ α) (key : κ) :
    (table.map f).get? key = (table.get? key).map f := by
  unfold get? map
  rw [List.find?_map, Option.map_map, Option.map_map]
  rfl

/-- The pairs whose value `f` keeps. -/
def filterMap (f : α → Option β) (table : Keyed κ α) : Keyed κ β :=
  ⟨table.entries.filterMap fun (k, v) => (f v).map (k, ·), by
    have h : ∀ l : List (κ × α),
        ((l.filterMap fun (k, v) => (f v).map (k, ·)).map (·.1)).Sublist (l.map (·.1)) := by
      intro l
      induction l with
      | nil => exact List.Sublist.slnil
      | cons pair rest ih =>
        obtain ⟨k, v⟩ := pair
        simp only [List.filterMap_cons, List.map_cons]
        cases f v with
        | none => exact ih.cons k
        | some w => exact ih.cons_cons k
    exact (h _).nodup table.nodup_keys⟩

end Keyed

end OpenApiClient
