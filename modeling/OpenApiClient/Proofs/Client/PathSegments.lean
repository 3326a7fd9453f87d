import Mathlib.Data.Set.Card
import OpenApiClient.Proofs.Client.Grouping
import OpenApiClient.Text.Latin

/-!
# Segments of a path

A path is cut at its slashes, however many of them stand together, and it names a function only if
two segments are left. What is left out is reported with the number of its segments.

Results:
* `segmentInduction`: a path is taken apart by slashes and whole segments.
* `splitPath_eq_some_iff`: the paths of two segments are those written as `TwoSegments`.
* `TwoSegments.path_injective`: and they are written so in one way only.
* `encard_runs`: there are as many segments as longest runs without a slash.
* `splitPath_sorts_paths`: which paths are cut in two, and what becomes of the others.
-/
namespace OpenApiClient.Client

/-! ## One segment -/

/-- A text that can be a segment. -/
structure IsSegment (segment : List Char) : Prop where
  ne_nil : segment ≠ []
  slash_notMem : '/' ∉ segment

/-- Whether a segment ends before a text. -/
def EndsSegment (rest : List Char) : Prop := ∀ c ∈ rest.head?, c = '/'

theorem IsSegment.head_ne {segment : List Char} (h : IsSegment segment) (rest : List Char) :
    (segment ++ rest).head? ≠ some '/' := by
  rw [List.head?_append_of_ne_nil _ h.ne_nil]
  exact fun hhead => h.slash_notMem (List.mem_of_head? hhead)

theorem IsSegment.not_endsSegment {segment : List Char} (h : IsSegment segment)
    (rest : List Char) : ¬ EndsSegment (segment ++ rest) := by
  obtain ⟨c, more, rfl⟩ := List.exists_cons_of_ne_nil h.ne_nil
  intro hends
  obtain rfl := hends c rfl
  exact h.slash_notMem List.mem_cons_self

theorem segmentChars_slash (rest : List Char) :
    segmentChars ('/' :: rest) = segmentChars rest := by
  rw [segmentChars.eq_def]
  exact if_pos rfl

theorem segmentChars_slashes (n : Nat) (rest : List Char) :
    segmentChars (List.replicate n '/' ++ rest) = segmentChars rest := by
  induction n with
  | zero => rfl
  | succ n ih => rw [List.replicate_succ, List.cons_append, segmentChars_slash, ih]

/-- A segment is cut off whole. -/
theorem segmentChars_segment {segment rest : List Char} (h : IsSegment segment)
    (hrest : EndsSegment rest) : segmentChars (segment ++ rest) = segment :: segmentChars rest := by
  obtain ⟨hne, hslash⟩ := h
  induction segment with
  | nil => exact absurd rfl hne
  | cons c more ih =>
    rw [List.mem_cons, not_or] at hslash
    have hc : c ≠ '/' := Ne.symm hslash.1
    cases more with
    | nil =>
      cases rest with
      | nil => simp [segmentChars, hc]
      | cons d rest =>
        obtain rfl := hrest d rfl
        simp [segmentChars, hc]
    | cons d more =>
      have hd : d ≠ '/' := fun hd => hslash.2 (hd ▸ List.mem_cons_self)
      have hmore := ih (List.cons_ne_nil d more) hslash.2
      rw [List.cons_append] at hmore
      rw [List.cons_append, List.cons_append, segmentChars, if_neg hc, hmore]
      simp only [if_neg hd, Naming.attach]

/-- A path is empty, or it begins with a slash or with a whole segment. -/
@[elab_as_elim]
theorem segmentInduction {motive : List Char → Prop} (nil : motive [])
    (slash : ∀ rest, motive rest → motive ('/' :: rest))
    (segment : ∀ segment rest, IsSegment segment → EndsSegment rest → motive rest →
      motive (segment ++ rest)) (path : List Char) : motive path := by
  -- a segment in front of the path goes on into it, up to its first slash
  have hfront : motive path ∧ ∀ front, IsSegment front → motive (front ++ path) := by
    induction path with
    | nil => exact ⟨nil, fun front h => segment front [] h nofun nil⟩
    | cons c rest ih =>
      by_cases hc : c = '/'
      · subst hc
        have hrest := slash rest ih.1
        exact ⟨hrest, fun front h => segment front _ h (by simp [EndsSegment]) hrest⟩
      · refine ⟨ih.2 [c] ⟨by simp, by simpa using Ne.symm hc⟩, fun front h => ?_⟩
        rw [← List.singleton_append, ← List.append_assoc]
        exact ih.2 (front ++ [c]) ⟨by simp, by simp [h.slash_notMem, Ne.symm hc]⟩
  exact hfront.1

/-! ## Two segments -/

def slashes (n : Nat) : String := String.ofList (List.replicate n '/')

/-- A path of two segments, with the slashes in front of them, between them and behind them. -/
@[ext]
structure TwoSegments where
  front : Nat
  first : String
  between : Nat
  second : String
  back : Nat
  isSegment_first : IsSegment first.toList
  between_pos : 0 < between
  isSegment_second : IsSegment second.toList

namespace TwoSegments

def path (parts : TwoSegments) : String :=
  slashes parts.front ++ parts.first ++ slashes parts.between ++ parts.second ++
    slashes parts.back

theorem toList_path (parts : TwoSegments) :
    parts.path.toList = List.replicate parts.front '/' ++ (parts.first.toList ++
      (List.replicate parts.between '/' ++ (parts.second.toList ++
        List.replicate parts.back '/'))) := by
  simp [path, slashes]

end TwoSegments

theorem endsSegment_slashes (n : Nat) : EndsSegment (List.replicate n '/') := fun _ hc =>
  List.eq_of_mem_replicate (List.mem_of_head? hc)

theorem endsSegment_slashes_append {n : Nat} (h : 0 < n) (rest : List Char) :
    EndsSegment (List.replicate n '/' ++ rest) := by
  obtain ⟨n, rfl⟩ := Nat.exists_eq_add_of_lt h
  simp [EndsSegment, List.replicate_succ]

namespace TwoSegments

theorem segmentChars_path (parts : TwoSegments) :
    segmentChars parts.path.toList = [parts.first.toList, parts.second.toList] := by
  have hback : segmentChars (List.replicate parts.back '/') = [] := by
    have h := segmentChars_slashes parts.back []
    rwa [List.append_nil] at h
  rw [toList_path, segmentChars_slashes,
    segmentChars_segment parts.isSegment_first
      (endsSegment_slashes_append parts.between_pos _),
    segmentChars_slashes,
    segmentChars_segment parts.isSegment_second (endsSegment_slashes _), hback]

theorem splitPath_path (parts : TwoSegments) :
    splitPath parts.path = some (parts.first, parts.second) := by
  rw [splitPath, segments, segmentChars_path]
  simp

end TwoSegments

theorem eq_slashes_of_segmentChars {path : List Char} (h : segmentChars path = []) :
    ∃ n, path = List.replicate n '/' := by
  induction path using segmentInduction with
  | nil => exact ⟨0, rfl⟩
  | slash rest ih =>
    rw [segmentChars_slash] at h
    obtain ⟨n, rfl⟩ := ih h
    exact ⟨n + 1, rfl⟩
  | segment segment rest hsegment hrest ih =>
    rw [segmentChars_segment hsegment hrest] at h
    cases h

/-- The first segment of a path stands behind slashes and is whole. -/
theorem exists_segment_of_segmentChars {path segment : List Char} {more : List (List Char)}
    (h : segmentChars path = segment :: more) :
    ∃ n rest, path = List.replicate n '/' ++ (segment ++ rest) ∧ IsSegment segment ∧
      EndsSegment rest ∧ segmentChars rest = more := by
  induction path using segmentInduction with
  | nil => cases h
  | slash rest ih =>
    rw [segmentChars_slash] at h
    obtain ⟨n, rest, rfl, hfound⟩ := ih h
    exact ⟨n + 1, rest, rfl, hfound⟩
  | segment segment rest hsegment hrest ih =>
    rw [segmentChars_segment hsegment hrest] at h
    obtain ⟨rfl, rfl⟩ := List.cons.inj h
    exact ⟨0, rest, rfl, hsegment, hrest, rfl⟩

/-- A path is cut in two exactly if it has two segments and nothing else but slashes. -/
theorem splitPath_eq_some_iff {path first second : String} :
    splitPath path = some (first, second) ↔
      ∃ parts : TwoSegments, parts.path = path ∧ parts.first = first ∧ parts.second = second := by
  constructor
  · intro h
    have hchars : segmentChars path.toList = [first.toList, second.toList] := by
      rw [splitPath_eq_some_iff_segments, segments] at h
      have hback := congrArg (List.map String.toList) h
      simpa using hback
    obtain ⟨front, rest, hpath, hfirst, hends, hrest⟩ := exists_segment_of_segmentChars hchars
    obtain ⟨between, last, rfl, hsecond, -, hlast⟩ := exists_segment_of_segmentChars hrest
    obtain ⟨back, rfl⟩ := eq_slashes_of_segmentChars hlast
    have hbetween : 0 < between := by
      refine Nat.pos_of_ne_zero fun hzero => ?_
      subst hzero
      exact hsecond.not_endsSegment _ hends
    refine ⟨⟨front, first, between, second, back, hfirst, hbetween, hsecond⟩, ?_, rfl, rfl⟩
    rw [← String.toList_inj, TwoSegments.toList_path, hpath]
  · rintro ⟨parts, rfl, rfl, rfl⟩
    exact parts.splitPath_path

/-- Slashes in front of something else are told from it. -/
theorem slashes_append_inj {m n : Nat} {first second : List Char}
    (hfirst : first.head? ≠ some '/') (hsecond : second.head? ≠ some '/')
    (h : List.replicate m '/' ++ first = List.replicate n '/' ++ second) :
    m = n ∧ first = second := by
  induction m generalizing n with
  | zero =>
    cases n with
    | zero => exact ⟨rfl, h⟩
    | succ n =>
      rw [List.replicate_zero, List.nil_append] at h
      exact absurd (h ▸ rfl) hfirst
  | succ m ih =>
    cases n with
    | zero =>
      rw [List.replicate_zero, List.nil_append] at h
      exact absurd (h ▸ rfl) hsecond
    | succ n =>
      obtain ⟨rfl, hsame⟩ := ih (List.cons.inj h).2
      exact ⟨rfl, hsame⟩

/-- A path is written with two segments in one way only. -/
theorem TwoSegments.path_injective : Function.Injective TwoSegments.path := by
  intro parts others h
  obtain ⟨hfirst, hsecond⟩ : parts.first = others.first ∧ parts.second = others.second := by
    have hsplit := congrArg splitPath h
    simpa [splitPath_path] using hsplit
  have hpath := congrArg String.toList h
  rw [toList_path, toList_path] at hpath
  obtain ⟨hfront, hpath⟩ := slashes_append_inj (parts.isSegment_first.head_ne _)
    (others.isSegment_first.head_ne _) hpath
  rw [hfirst] at hpath
  obtain ⟨hbetween, hpath⟩ := slashes_append_inj (parts.isSegment_second.head_ne _)
    (others.isSegment_second.head_ne _) (List.append_cancel_left hpath)
  rw [hsecond] at hpath
  have hback : parts.back = others.back := by
    simpa using congrArg List.length (List.append_cancel_left hpath)
  exact TwoSegments.ext hfront hfirst hbetween hsecond hback

/-! ## Longest runs -/

/-- The characters of a path from one place up to another are a longest run without slashes: a
slash or an end of the path stands on either side. -/
structure IsRun (path : List Char) (start stop : Nat) : Prop where
  nonempty : start < stop
  within : stop ≤ path.length
  free : ∀ i, start ≤ i → i < stop → path[i]? ≠ some '/'
  before : start = 0 ∨ path[start - 1]? = some '/'
  after : stop = path.length ∨ path[stop]? = some '/'

/-- The places of all longest runs without slashes. -/
def runs (path : List Char) : Set (Nat × Nat) := {run | IsRun path run.1 run.2}

theorem not_isRun_zero {rest : List Char} (h : EndsSegment rest) (stop : Nat) :
    ¬ IsRun rest 0 stop := by
  intro hrun
  cases rest with
  | nil => exact absurd (Nat.lt_of_lt_of_le hrun.nonempty hrun.within) (Nat.lt_irrefl 0)
  | cons c more =>
    obtain rfl := h c rfl
    exact hrun.free 0 (Nat.le_refl 0) hrun.nonempty rfl

/-- A run behind the front of a path, where the path is cut. -/
theorem isRun_append_iff {front rest : List Char}
    (h : front.getLast? = some '/' ∨ EndsSegment rest) {start stop : Nat} :
    IsRun (front ++ rest) (front.length + start) (front.length + stop) ↔ IsRun rest start stop := by
  have hget : ∀ i, (front ++ rest)[front.length + i]? = rest[i]? := fun i => by
    rw [List.getElem?_append_right (Nat.le_add_right _ _), Nat.add_sub_cancel_left]
  constructor
  · rintro ⟨hlt, hle, hfree, hbefore, hafter⟩
    rw [List.length_append] at hle hafter
    refine ⟨by omega, by omega, fun i hstart hstop => ?_, ?_, ?_⟩
    · rw [← hget]
      exact hfree _ (by omega) (by omega)
    · rcases Nat.eq_zero_or_pos start with hzero | hpos
      · exact .inl hzero
      · rw [Nat.add_sub_assoc hpos, hget] at hbefore
        exact hbefore.imp_left (by omega)
    · rw [hget] at hafter
      exact hafter.imp_left (by omega)
  · intro hrun
    have ⟨hlt, hle, hfree, hbefore, hafter⟩ := hrun
    refine ⟨by omega, by rw [List.length_append]; omega, fun i hstart hstop => ?_, ?_, ?_⟩
    · obtain ⟨j, rfl⟩ := Nat.exists_eq_add_of_le (Nat.le_of_add_right_le hstart)
      rw [hget]
      exact hfree j (by omega) (by omega)
    · rcases Nat.eq_zero_or_pos start with rfl | hstart
      · rcases h with hslash | hends
        · rw [List.getLast?_eq_getElem?] at hslash
          have hlast := (List.getElem?_eq_some_iff.mp hslash).1
          exact .inr (by rw [Nat.add_zero, List.getElem?_append_left hlast, hslash])
        · exact absurd hrun (not_isRun_zero hends stop)
      · rw [Nat.add_sub_assoc hstart, hget]
        exact .inr (hbefore.resolve_left (by omega))
    · rw [hget, List.length_append]
      exact hafter.imp_left (by omega)

theorem IsSegment.getElem?_ne {segment : List Char} (h : IsSegment segment) (rest : List Char)
    {i : Nat} (hi : i < segment.length) : (segment ++ rest)[i]? ≠ some '/' := by
  rw [List.getElem?_append_left hi]
  exact fun hslash => h.slash_notMem (List.mem_of_getElem? hslash)

theorem EndsSegment.slash_behind {rest : List Char} (h : EndsSegment rest) (front : List Char) :
    front.length = (front ++ rest).length ∨ (front ++ rest)[front.length]? = some '/' := by
  cases rest with
  | nil => exact .inl (by simp)
  | cons c more =>
    obtain rfl := h c rfl
    exact .inr (by simp)

/-- A run that begins in the first segment of a path is this segment. -/
theorem isRun_segment_iff {segment rest : List Char} (h : IsSegment segment)
    (hrest : EndsSegment rest) {start stop : Nat} (hstart : start < segment.length) :
    IsRun (segment ++ rest) start stop ↔ start = 0 ∧ stop = segment.length := by
  constructor
  · rintro ⟨hlt, hle, hfree, hbefore, hafter⟩
    have hzero : start = 0 :=
      hbefore.resolve_right (h.getElem?_ne rest (by omega))
    refine ⟨hzero, ?_⟩
    rcases Nat.lt_trichotomy stop segment.length with hless | hsame | hmore
    · rw [List.length_append] at hafter
      exact absurd (hafter.resolve_left (by omega)) (h.getElem?_ne rest hless)
    · exact hsame
    · have hslash := (hrest.slash_behind segment).resolve_left (by omega)
      exact absurd hslash (hfree segment.length (by omega) hmore)
  · rintro ⟨rfl, rfl⟩
    exact ⟨hstart, by simp, fun i _ hi => h.getElem?_ne rest hi, .inl rfl,
      hrest.slash_behind segment⟩

/-- Places moved by the length of what stands in front of a path. -/
def moved (n : Nat) (run : Nat × Nat) : Nat × Nat := (n + run.1, n + run.2)

theorem moved_injective (n : Nat) : Function.Injective (moved n) := by
  rintro ⟨start, stop⟩ ⟨start', stop'⟩ h
  simpa [moved] using h

/-- Of the runs of a path, those behind its front are the runs of its rest. -/
theorem mem_image_moved_iff {front rest : List Char}
    (h : front.getLast? = some '/' ∨ EndsSegment rest) {run : Nat × Nat} :
    run ∈ moved front.length '' runs rest ↔
      front.length ≤ run.1 ∧ run ∈ runs (front ++ rest) := by
  constructor
  · rintro ⟨⟨start, stop⟩, hrun, rfl⟩
    exact ⟨Nat.le_add_right _ _, (isRun_append_iff h).mpr hrun⟩
  · rintro ⟨hle, hrun⟩
    have hstop := Nat.le_of_lt (Nat.lt_of_le_of_lt hle hrun.nonempty)
    obtain ⟨start, stop⟩ := run
    obtain ⟨start, rfl⟩ := Nat.exists_eq_add_of_le hle
    obtain ⟨stop, rfl⟩ := Nat.exists_eq_add_of_le hstop
    exact ⟨(start, stop), (isRun_append_iff h).mp hrun, rfl⟩

theorem runs_slash (rest : List Char) : runs ('/' :: rest) = moved 1 '' runs rest := by
  ext ⟨start, stop⟩
  have hmoved : (start, stop) ∈ moved 1 '' runs rest ↔
      1 ≤ start ∧ IsRun ('/' :: rest) start stop :=
    mem_image_moved_iff (.inl rfl : ['/'].getLast? = some '/' ∨ EndsSegment rest)
  rw [hmoved]
  refine ⟨fun hrun => ⟨Nat.pos_of_ne_zero ?_, hrun⟩, And.right⟩
  rintro rfl
  exact hrun.free 0 (Nat.le_refl 0) hrun.nonempty rfl

theorem runs_segment {segment rest : List Char} (h : IsSegment segment)
    (hrest : EndsSegment rest) :
    runs (segment ++ rest) =
      insert (0, segment.length) (moved segment.length '' runs rest) := by
  ext ⟨start, stop⟩
  rw [Set.mem_insert_iff, mem_image_moved_iff (.inr hrest), Prod.mk.injEq]
  rcases Nat.lt_or_ge start segment.length with hlt | hge
  · have hrun : IsRun (segment ++ rest) start stop ↔ _ := isRun_segment_iff h hrest hlt
    refine ⟨fun hmem => .inl (hrun.mp hmem), ?_⟩
    rintro (hsegment | ⟨hge, -⟩)
    · exact hrun.mpr hsegment
    · exact absurd hlt (Nat.not_lt.mpr hge)
  · refine ⟨fun hmem => .inr ⟨hge, hmem⟩, ?_⟩
    rintro (⟨rfl, -⟩ | ⟨-, hmem⟩)
    · exact absurd (List.eq_nil_of_length_eq_zero (Nat.le_zero.mp hge)) h.ne_nil
    · exact hmem

/-- A path has as many segments as longest runs without slashes. -/
theorem encard_runs (path : List Char) : (runs path).encard = (segmentChars path).length := by
  induction path using segmentInduction with
  | nil =>
    have hnone : runs [] = ∅ := by
      refine Set.eq_empty_of_forall_notMem fun run hrun => ?_
      exact absurd (Nat.lt_of_lt_of_le hrun.nonempty hrun.within) (Nat.not_lt_zero _)
    rw [hnone, Set.encard_empty]
    rfl
  | slash rest ih =>
    rw [runs_slash, (moved_injective 1).encard_image, ih, segmentChars_slash]
  | segment segment rest hsegment hrest ih =>
    have hnew : (0, segment.length) ∉ moved segment.length '' runs rest := by
      rw [mem_image_moved_iff (.inr hrest)]
      rintro ⟨hle, -⟩
      exact hsegment.ne_nil (List.eq_nil_of_length_eq_zero (Nat.le_zero.mp hle))
    rw [runs_segment hsegment hrest, Set.encard_insert_of_notMem hnew,
      (moved_injective _).encard_image, ih, segmentChars_segment hsegment hrest, List.length_cons,
      Nat.cast_succ]

/-! ## Paths that are cut in two and others -/

theorem splitPath_eq_none_iff {path : String} :
    splitPath path = none ↔ (segments path).length ≠ 2 := by
  unfold splitPath
  split
  · rename_i hsegments
    simp [hsegments]
  · rename_i hother
    refine iff_of_true rfl fun hlength => ?_
    obtain ⟨first, second, hsegments⟩ := List.length_eq_two.mp hlength
    exact hother first second hsegments

/-- A path is cut in two exactly if it is two segments and any number of slashes in front of them,
between them and behind them, but at least one between them; it is so in one way only. Every other
path changes no module and no count, and is reported once with the number of its longest runs
without slashes, which is not two. -/
theorem splitPath_sorts_paths (path : String) :
    (∀ first second, splitPath path = some (first, second) ↔
      ∃ parts : TwoSegments, parts.path = path ∧ parts.first = first ∧ parts.second = second) ∧
    {parts : TwoSegments | parts.path = path}.Subsingleton ∧
    (splitPath path = none → ∀ spell parse (grouping : Grouping) (item : PathItem), ∃ count : ℕ,
      grouping.addPath spell parse path item =
          { grouping with warnings := grouping.warnings ++ [.skippedPath path count] } ∧
        (runs path.toList).encard = count ∧ count ≠ 2) := by
  refine ⟨fun first second => splitPath_eq_some_iff, ?_, fun h spell parse grouping item => ?_⟩
  · intro parts hparts others hothers
    exact TwoSegments.path_injective (hparts.trans hothers.symm)
  · refine ⟨(segments path).length, ?_, ?_, splitPath_eq_none_iff.mp h⟩
    · rw [Grouping.addPath, h]
      rfl
    · rw [encard_runs, segments, List.length_map]

/-- A path of three segments is left out, although it has two slashes together. -/
theorem splitPath_sorts_paths_pets :
    (∃ parts : TwoSegments, parts.path = "//pets//all/" ∧ parts.first = "pets" ∧
      parts.second = "all") ∧
    splitPath "/pets//all/old" = none ∧
    (({} : Grouping).addPath Text.latin MediaType.ofText? "/pets//all/old"
      (.ofList [(.get, {})])).warnings = [.skippedPath "/pets//all/old" 3] ∧
    (runs "/pets//all/old".toList).encard = (3 : ℕ) := by
  have hsplit : splitPath "//pets//all/" = some ("pets", "all") := by decide +kernel
  have hnone : splitPath "/pets//all/old" = none := by decide +kernel
  have hwarnings : (({} : Grouping).addPath Text.latin MediaType.ofText? "/pets//all/old"
      (.ofList [(.get, {})])).warnings = [.skippedPath "/pets//all/old" 3] := by decide +kernel
  obtain ⟨count, hadded, hcount, -⟩ := (splitPath_sorts_paths "/pets//all/old").2.2 hnone
    Text.latin MediaType.ofText? {} (.ofList [(.get, {})])
  refine ⟨((splitPath_sorts_paths "//pets//all/").1 "pets" "all").mp hsplit, hnone, hwarnings, ?_⟩
  rw [hadded] at hwarnings
  obtain rfl : count = 3 := by simpa using hwarnings
  exact hcount

end OpenApiClient.Client
