import OpenApiClient.Output.Writing
import OpenApiClient.Proofs.Text.LineEnds

/-!
# Line ends of written files

Two replacements give a text one kind of line end, and the second one also goes over what the
first one has put there. A reader that goes over the text once, with one character of lookahead,
meets the same line ends. Files are unified when they are made and again when they are written.

Results:
* `takenApart_iff`: a text can be taken apart into characters and line ends in one way only.
* `unifyLineEnds_eq_map`: both replacements together write each of these parts as one character.
* `writeFiles_map_unified`: files whose line ends are unified already are written like others.
* `lineEnds_unified_once`: what becomes of any text and of any files.
-/
namespace OpenApiClient.Text

/-! ## One scan -/

/-- What a reader of lines meets in a text. -/
inductive LinePart where
  /-- A character that ends no line. -/
  | other (c : Char)
  | feed
  /-- A carriage return without a line feed behind it. -/
  | carriage
  /-- A carriage return and a line feed. -/
  | pair
deriving DecidableEq, Repr

namespace LinePart

/-- How a part is written in the text. -/
def written : LinePart → List Char
  | other c => [c]
  | feed => ['\n']
  | carriage => ['\r']
  | pair => ['\r', '\n']

/-- A part where the line feed is the only line end. -/
def unified : LinePart → Char
  | other c => c
  | _ => '\n'

def isEnd : LinePart → Bool
  | other _ => false
  | _ => true

end LinePart

/-- The parts of a text from left to right. -/
def scan : List Char → List LinePart
  | [] => []
  | '\r' :: '\n' :: rest => .pair :: scan rest
  | '\r' :: rest => .carriage :: scan rest
  | '\n' :: rest => .feed :: scan rest
  | c :: rest => .other c :: scan rest

theorem scan_return {rest : List Char} (h : rest.head? ≠ some '\n') :
    scan ('\r' :: rest) = .carriage :: scan rest := by
  cases rest with
  | nil => rfl
  | cons c more =>
    rw [scan]
    rintro more ⟨⟩
    exact h rfl

/-- The lookahead of the scan, in terms of the next character. -/
theorem head_ne_feed {rest : List Char} (h : ∀ more, rest = '\n' :: more → False) :
    rest.head? ≠ some '\n' := by
  intro hhead
  obtain ⟨more, hrest⟩ := List.head?_eq_some_iff.mp hhead
  exact h more hrest

theorem scan_other {c : Char} (hreturn : c ≠ '\r') (hfeed : c ≠ '\n') (rest : List Char) :
    scan (c :: rest) = .other c :: scan rest := by
  rw [scan]
  · exact fun _ hc _ => hreturn hc
  · exact hreturn
  · exact hfeed

/-- Whether a character is part of a line end. -/
def endsLine (c : Char) : Bool := c = '\r' ∨ c = '\n'

theorem not_endsLine_iff {c : Char} : ¬ endsLine c ↔ c ≠ '\r' ∧ c ≠ '\n' := by
  rw [endsLine, decide_eq_true_iff, not_or]

/-- A text taken apart: no character of a line end stands for itself, and no line end is cut in
two. -/
structure TakenApart (text : List Char) (parts : List LinePart) : Prop where
  written : parts.flatMap LinePart.written = text
  other : ∀ c, .other c ∈ parts → ¬ endsLine c
  whole : ¬ [.carriage, .feed] <:+: parts

theorem cut_infix_cons {part : LinePart} {parts : List LinePart} :
    [.carriage, .feed] <:+: part :: parts ↔
      (part = .carriage ∧ parts.head? = some .feed) ∨ [.carriage, .feed] <:+: parts := by
  rw [List.infix_cons_iff, List.cons_prefix_cons, eq_comm (a := part)]
  cases parts with
  | nil => simp
  | cons next more => simp [List.cons_prefix_cons, eq_comm]

/-- Only a line feed that stands for itself begins with one. -/
theorem TakenApart.head_eq_feed_iff {text : List Char} {parts : List LinePart}
    (h : TakenApart text parts) : parts.head? = some .feed ↔ text.head? = some '\n' := by
  obtain ⟨rfl, hother, -⟩ := h
  cases parts with
  | nil => simp
  | cons part more =>
    cases part with
    | other c =>
      have hc := hother c List.mem_cons_self
      simp only [List.head?_cons, List.flatMap_cons, LinePart.written, List.singleton_append]
      exact ⟨by rintro ⟨⟩, by rintro ⟨⟩; exact absurd rfl hc⟩
    | feed => simp [LinePart.written]
    | carriage => simp [LinePart.written]
    | pair => simp [LinePart.written]

/-- Whether a part may stand in front of a text. -/
def LinePart.Fits (rest : List Char) : LinePart → Prop
  | other c => ¬ endsLine c
  | carriage => rest.head? ≠ some '\n'
  | _ => True

theorem LinePart.fits_iff {rest : List Char} {part : LinePart} :
    part.Fits rest ↔
      (∀ c, part = other c → ¬ endsLine c) ∧ (part = carriage → rest.head? ≠ some '\n') := by
  cases part with
  | other c =>
    refine ⟨fun h => ⟨?_, nofun⟩, fun h => h.1 c rfl⟩
    rintro _ ⟨⟩
    exact h
  | carriage => exact ⟨fun h => ⟨nofun, fun _ => h⟩, fun h => h.2 rfl⟩
  | feed => exact iff_of_true trivial ⟨nofun, nofun⟩
  | pair => exact iff_of_true trivial ⟨nofun, nofun⟩

/-- A text is taken apart from its beginning. -/
theorem takenApart_cons_iff {text : List Char} {part : LinePart} {parts : List LinePart} :
    TakenApart text (part :: parts) ↔
      ∃ rest, text = part.written ++ rest ∧ part.Fits rest ∧ TakenApart rest parts := by
  simp only [LinePart.fits_iff]
  constructor
  · rintro ⟨hwritten, hother, hwhole⟩
    rw [cut_infix_cons, not_or] at hwhole
    have hrest : TakenApart (parts.flatMap LinePart.written) parts :=
      ⟨rfl, fun c hc => hother c (List.mem_cons_of_mem _ hc), hwhole.2⟩
    refine ⟨_, hwritten.symm, ⟨?_, fun hpart hhead => ?_⟩, hrest⟩
    · rintro c rfl
      exact hother c List.mem_cons_self
    · exact hwhole.1 ⟨hpart, hrest.head_eq_feed_iff.mpr hhead⟩
  · rintro ⟨rest, rfl, ⟨hother, hwhole⟩, hrest⟩
    refine ⟨by rw [List.flatMap_cons, hrest.written], fun c hc => ?_, ?_⟩
    · rcases List.mem_cons.mp hc with hc | hc
      · exact hother c hc.symm
      · exact hrest.other c hc
    · rw [cut_infix_cons, hrest.head_eq_feed_iff]
      rintro (⟨hpart, hhead⟩ | hcut)
      · exact hwhole hpart hhead
      · exact hrest.whole hcut

theorem takenApart_scan (text : List Char) : TakenApart text (scan text) := by
  fun_induction scan text with
  | case1 => exact ⟨rfl, by simp, by simp⟩
  | case2 rest ih => exact takenApart_cons_iff.mpr ⟨rest, rfl, trivial, ih⟩
  | case3 rest hfeed ih =>
    exact takenApart_cons_iff.mpr ⟨rest, rfl, head_ne_feed hfeed, ih⟩
  | case4 rest ih => exact takenApart_cons_iff.mpr ⟨rest, rfl, trivial, ih⟩
  | case5 c rest _ hreturn hfeed ih =>
    exact takenApart_cons_iff.mpr ⟨rest, rfl, not_endsLine_iff.mpr ⟨hreturn, hfeed⟩, ih⟩

/-- A text can be taken apart in one way only. -/
theorem TakenApart.eq_scan {text : List Char} {parts : List LinePart} (h : TakenApart text parts) :
    parts = scan text := by
  induction parts generalizing text with
  | nil => obtain ⟨rfl, -, -⟩ := h; rfl
  | cons part more ih =>
    obtain ⟨rest, rfl, hfits, hrest⟩ := takenApart_cons_iff.mp h
    rw [ih hrest]
    -- each part fits, so that the scan takes it and not a longer or a shorter one
    cases part with
    | other c =>
      have hc := not_endsLine_iff.mp hfits
      exact (scan_other hc.1 hc.2 rest).symm
    | feed => rfl
    | carriage => exact (scan_return hfits).symm
    | pair => rfl

theorem takenApart_iff {text : List Char} {parts : List LinePart} :
    TakenApart text parts ↔ parts = scan text :=
  ⟨TakenApart.eq_scan, fun h => h ▸ takenApart_scan text⟩

/-! ## One line end for all parts -/

/-- Both replacements together write each part of the text as one character. -/
theorem unifyLineEnds_eq_map (text : List Char) :
    unifyLineEnds text = (scan text).map LinePart.unified := by
  fun_induction scan text with
  | case1 => rfl
  | case2 rest ih => rw [unifyLineEnds_pair, ih]; rfl
  | case3 rest hfeed ih => rw [unifyLineEnds_return (head_ne_feed hfeed), ih]; rfl
  | case4 rest ih => rw [unifyLineEnds_cons_ne (by decide), ih]; rfl
  | case5 c rest _ hreturn _ ih => rw [unifyLineEnds_cons_ne hreturn, ih]; rfl

namespace TakenApart

variable {text : List Char} {parts : List LinePart} (h : TakenApart text parts)

include h

theorem unified_ne_return : ∀ part ∈ parts, part.unified ≠ '\r' := by
  intro part hpart
  cases part with
  | other c =>
    rintro rfl
    exact h.other '\r' hpart rfl
  | _ => decide

theorem unified_eq_feed_iff : ∀ part ∈ parts, part.unified = '\n' ↔ part.isEnd := by
  intro part hpart
  cases part with
  | other c =>
    refine iff_of_false ?_ Bool.false_ne_true
    rintro rfl
    exact h.other '\n' hpart rfl
  | _ => exact iff_of_true rfl rfl

end TakenApart

/-- What is no part of a line end is written as it was. -/
theorem filter_map_unified (parts : List LinePart) :
    (parts.map LinePart.unified).filter (!endsLine ·) =
      (parts.flatMap LinePart.written).filter (!endsLine ·) := by
  induction parts with
  | nil => rfl
  | cons part more ih =>
    rw [List.map_cons, List.flatMap_cons, List.filter_append, ← ih, ← List.singleton_append,
      List.filter_append]
    cases part <;> rfl

end OpenApiClient.Text

namespace OpenApiClient.Output

open Text

/-! ## Files -/

/-- What a text is like whose line ends have been unified. -/
structure UnifiedOnce (text unified : List Char) : Prop where
  /-- One scan from left to right writes every line end as a line feed. -/
  scanned : unified = (scan text).map LinePart.unified
  noReturn : '\r' ∉ unified
  feeds : unified.count '\n' = (scan text).countP LinePart.isEnd
  kept : unified.filter (!endsLine ·) = text.filter (!endsLine ·)

theorem unifiedOnce_unifyLineEnds (text : List Char) : UnifiedOnce text (unifyLineEnds text) := by
  have hscan := takenApart_scan text
  rw [unifyLineEnds_eq_map]
  refine ⟨rfl, ?_, ?_, ?_⟩
  · intro hmem
    obtain ⟨part, hpart, hreturn⟩ := List.mem_map.mp hmem
    exact hscan.unified_ne_return part hpart hreturn
  · rw [List.count_eq_countP, List.countP_map]
    refine List.countP_congr fun part hpart => ?_
    rw [← hscan.unified_eq_feed_iff part hpart]
    simp
  · rw [filter_map_unified, hscan.written]

theorem unifyLineEnds_unifyLineEnds (text : List Char) :
    unifyLineEnds (unifyLineEnds text) = unifyLineEnds text := by
  have hkept := unifyLineEnds_append (unifiedOnce_unifyLineEnds text).noReturn []
  rwa [List.append_nil, unifyLineEnds_nil, List.append_nil] at hkept

theorem unifiedLineEnds_unifiedLineEnds (text : String) :
    unifiedLineEnds (unifiedLineEnds text) = unifiedLineEnds text := by
  rw [unifiedLineEnds, unifiedLineEnds, String.toList_ofList, unifyLineEnds_unifyLineEnds]

/-- The file with the line ends of its text unified. -/
def GeneratedFile.unified (file : GeneratedFile) : GeneratedFile := .ofText file.name file.content

theorem writeEach_map_unified (directory : String) (files : List GeneratedFile)
    (tree : FileTree) :
    writeEach directory (files.map GeneratedFile.unified) tree =
      writeEach directory files tree := by
  induction files generalizing tree with
  | nil => rfl
  | cons file rest ih =>
    simp only [List.map_cons, writeEach_cons, ih, GeneratedFile.unified, GeneratedFile.ofText,
      unifiedLineEnds_unifiedLineEnds]

theorem writeFiles_map_unified (directory : String) (files : List GeneratedFile)
    (tree : FileTree) :
    writeFiles directory (files.map GeneratedFile.unified) tree =
      writeFiles directory files tree := by
  have hnames : (files.map GeneratedFile.unified).map (·.name) = files.map (·.name) := by
    rw [List.map_map]; rfl
  simp only [writeFiles, hnames, writeEach_map_unified]

/-- Two replacements read a text like one scan from left to right, and the parts that the scan
meets are the only ones that the text can be taken apart into. No carriage return is left, there
is one line feed for each line end, and everything else stays in its order. A text that was
unified before is kept, so that files may be unified when they are made and when they are
written. -/
theorem lineEnds_unified_once (text : String) :
    (∀ parts, TakenApart text.toList parts ↔ parts = scan text.toList) ∧
      UnifiedOnce text.toList (unifiedLineEnds text).toList ∧
      unifiedLineEnds (unifiedLineEnds text) = unifiedLineEnds text ∧
      ∀ (directory : String) (files : List GeneratedFile) (tree : FileTree),
        writeFiles directory (files.map GeneratedFile.unified) tree =
          writeFiles directory files tree := by
  refine ⟨fun parts => takenApart_iff, ?_, unifiedLineEnds_unifiedLineEnds text,
    writeFiles_map_unified⟩
  rw [unifiedLineEnds, String.toList_ofList]
  exact unifiedOnce_unifyLineEnds text.toList

/-- The second carriage return is the one that the line feed goes with. -/
example : scan "\r\r\n\n\r".toList = [.carriage, .pair, .feed, .carriage] := by decide

end OpenApiClient.Output
