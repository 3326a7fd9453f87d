import Mathlib.Data.List.Nodup
import Mathlib.Data.List.Perm.Subperm
import OpenApiClient.Client.FreshName

/-!
# What fresh names look like

The search for a fresh name stops after as many underscores as there are taken names. It never
stops too early, since the names tried so far are different from each other.

Results:
* `freshName_eq`: a fresh name has the fewest underscores that make it free.
* `notMem_of_mem_freshNames`, `nodup_freshNames`: several fresh names differ from the taken ones
  and from each other.
* `mem_freshNames`: each of them is one of the bases with underscores after it.
-/
namespace OpenApiClient.Client

/-! ## One fresh name -/

/-- A base with underscores after it. -/
def underscored (base : String) (k : Nat) : String :=
  base ++ String.ofList (List.replicate k '_')

theorem underscored_toList (base : String) (k : Nat) :
    (underscored base k).toList = base.toList ++ List.replicate k '_' := by
  rw [underscored, String.toList_append, String.toList_ofList]

theorem underscored_zero (base : String) : underscored base 0 = base := by
  rw [← String.toList_inj, underscored_toList]
  simp

theorem underscored_push (base : String) (k : Nat) :
    underscored (base.push '_') k = underscored base (k + 1) := by
  rw [← String.toList_inj, underscored_toList, underscored_toList, String.toList_push,
    List.append_assoc, List.singleton_append, List.replicate_succ]

theorem underscored_injective (base : String) : Function.Injective (underscored base) := by
  intro i j h
  have hlength := congrArg (fun name => name.toList.length) h
  simp only [underscored_toList, List.length_append, List.length_replicate] at hlength
  omega

/-- The search passes taken names only, and it goes on while it may and has found no free one. -/
theorem freshFrom_eq (taken : List String) (fuel : Nat) (base : String) :
    ∃ k ≤ fuel, freshFrom taken fuel base = underscored base k ∧
      (∀ j < k, underscored base j ∈ taken) ∧ (k < fuel → underscored base k ∉ taken) := by
  induction fuel generalizing base with
  | zero => exact ⟨0, Nat.le_refl 0, (underscored_zero base).symm, nofun, nofun⟩
  | succ fuel ih =>
    rw [freshFrom]
    split
    · rename_i htaken
      obtain ⟨k, hk, heq, hbelow, hfree⟩ := ih (base.push '_')
      rw [underscored_push] at heq hfree
      refine ⟨k + 1, by omega, heq, ?_, fun hlt => hfree (by omega)⟩
      intro j hj
      cases j with
      | zero => rwa [underscored_zero]
      | succ j => rw [← underscored_push]; exact hbelow j (by omega)
    · rename_i hfree
      have hzero := underscored_zero base
      exact ⟨0, Nat.zero_le _, hzero.symm, nofun, fun _ => by rwa [hzero]⟩

/-- As many names as are taken, and one more, are not all taken. -/
theorem underscored_notMem {taken : List String} {base : String}
    (h : ∀ j < taken.length, underscored base j ∈ taken) :
    underscored base taken.length ∉ taken := by
  intro hlast
  have hnodup : ((List.range (taken.length + 1)).map (underscored base)).Nodup :=
    List.nodup_range.map (underscored_injective base)
  have hsubset : (List.range (taken.length + 1)).map (underscored base) ⊆ taken := by
    intro name hname
    obtain ⟨j, hj, rfl⟩ := List.mem_map.mp hname
    rcases Nat.lt_succ_iff_lt_or_eq.mp (List.mem_range.mp hj) with hj | rfl
    · exact h j hj
    · exact hlast
  have hlength := (List.subperm_of_subset hnodup hsubset).length_le
  rw [List.length_map, List.length_range] at hlength
  omega

/-- A fresh name is its base with the fewest underscores after it that make it free, no more than
there are taken names. -/
theorem freshName_eq (taken : List String) (base : String) :
    ∃ k ≤ taken.length, freshName taken base = underscored base k ∧
      underscored base k ∉ taken ∧ ∀ j < k, underscored base j ∈ taken := by
  obtain ⟨k, hk, heq, hbelow, hfree⟩ := freshFrom_eq taken taken.length base
  refine ⟨k, hk, heq, ?_, hbelow⟩
  rcases Nat.lt_or_eq_of_le hk with hlt | rfl
  · exact hfree hlt
  · exact underscored_notMem hbelow

theorem freshName_notMem (taken : List String) (base : String) : freshName taken base ∉ taken := by
  obtain ⟨k, -, heq, hfree, -⟩ := freshName_eq taken base
  rw [heq]
  exact hfree

/-- A fresh name starts like its base. -/
theorem head_freshName (taken : List String) {base : String} (h : base ≠ "") :
    (freshName taken base).toList.head? = base.toList.head? := by
  obtain ⟨k, -, heq, -⟩ := freshName_eq taken base
  have hne : base.toList ≠ [] := fun e => h (String.toList_eq_nil_iff.mp e)
  rw [heq, underscored_toList, List.head?_append_of_ne_nil _ hne]

/-! ## Several fresh names -/

theorem length_freshNames (taken bases : List String) :
    (freshNames taken bases).length = bases.length := by
  induction bases generalizing taken with
  | nil => rfl
  | cons base more ih => simp [freshNames, ih]

/-- Each of several fresh names is one of the bases with underscores after it. -/
theorem mem_freshNames {taken bases : List String} {name : String}
    (h : name ∈ freshNames taken bases) :
    ∃ base ∈ bases, ∃ k, name = underscored base k := by
  induction bases generalizing taken with
  | nil => simp [freshNames] at h
  | cons base more ih =>
    simp only [freshNames, List.mem_cons] at h
    rcases h with rfl | h
    · obtain ⟨k, -, hk, -⟩ := freshName_eq taken base
      exact ⟨base, by simp, k, hk⟩
    · obtain ⟨base', hb, hk⟩ := ih h
      exact ⟨base', by simp [hb], hk⟩

theorem notMem_of_mem_freshNames {taken bases : List String} {name : String}
    (h : name ∈ freshNames taken bases) : name ∉ taken := by
  induction bases generalizing taken with
  | nil => simp [freshNames] at h
  | cons base more ih =>
    simp only [freshNames, List.mem_cons] at h
    rcases h with rfl | h
    · exact freshName_notMem taken base
    · intro htaken
      exact ih h (List.mem_cons_of_mem _ htaken)

/-- Several fresh names differ from each other. -/
theorem nodup_freshNames (taken bases : List String) : (freshNames taken bases).Nodup := by
  induction bases generalizing taken with
  | nil => exact List.nodup_nil
  | cons base more ih =>
    simp only [freshNames]
    refine List.nodup_cons.mpr ⟨?_, ih _⟩
    intro hmem
    exact notMem_of_mem_freshNames hmem List.mem_cons_self

end OpenApiClient.Client
