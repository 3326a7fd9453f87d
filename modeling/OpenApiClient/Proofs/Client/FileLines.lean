import OpenApiClient.Proofs.Client.Banner

/-!
# Lines of code in the files of a run

The code of functions and of declarations is a list of lines. Every line stands in the file that
the code is written to, and begins where a line of the file begins, whatever stands before it.

Results:
* `lineIn_codeOf`, `LineIn.joined`, `LineIn.append`: how a line comes into a text.
* `hasLine_ofText`: a line of a text stands in the file that the text is written to.
* `hasLine_moduleFile`, `hasLine_modelsFile`: the lines of functions and of declarations.
-/
namespace OpenApiClient

namespace Client

/-! ## Lines of a text -/

/-- Whether a line begins behind a text: it is empty or ends in a line feed. -/
def AtLineStart (front : List Char) : Prop := front = [] ∨ front.getLast? = some '\n'

theorem AtLineStart.append {first second : List Char} (hfirst : AtLineStart first)
    (hsecond : AtLineStart second) : AtLineStart (first ++ second) := by
  rcases hsecond with rfl | hsecond
  · rwa [List.append_nil]
  · exact .inr (by rw [List.getLast?_append, hsecond, Option.some_or])

theorem atLineStart_feed (front : List Char) : AtLineStart (front ++ ['\n']) :=
  .inr List.getLast?_concat

theorem atLineStart_flatMap_feed (lines : List (List Char)) :
    AtLineStart (lines.flatMap (· ++ ['\n'])) := by
  rcases List.eq_nil_or_concat' lines with rfl | ⟨init, last, rfl⟩
  · exact .inl rfl
  · rw [List.flatMap_append, List.flatMap_singleton, ← List.append_assoc]
    exact atLineStart_feed _

/-- A line stands in a text: it begins where a line begins, and a line feed follows it. -/
def LineIn (line text : List Char) : Prop :=
  ∃ front back, text = front ++ (line ++ '\n' :: back) ∧ AtLineStart front

theorem LineIn.append {line text front : List Char} (h : LineIn line text)
    (hfront : AtLineStart front) (back : List Char) : LineIn line (front ++ (text ++ back)) := by
  obtain ⟨first, rest, rfl, hfirst⟩ := h
  exact ⟨front ++ first, rest ++ back, by simp, hfront.append hfirst⟩

/-- A text joined of pieces with a line feed between every two has the lines of each piece. -/
theorem LineIn.joined {line piece : List Char} (h : LineIn line piece) {pieces : List (List Char)}
    (hpiece : piece ∈ pieces) : LineIn line (Text.joined ['\n'] pieces) := by
  induction pieces with
  | nil => cases hpiece
  | cons first more ih =>
    cases more with
    | nil =>
      rw [List.mem_singleton] at hpiece
      subst hpiece
      exact h
    | cons next more =>
      rw [Text.joined]
      rcases List.mem_cons.mp hpiece with rfl | hpiece
      · rw [List.append_assoc]
        exact h.append (.inl rfl) _
      · rw [← List.append_nil (Text.joined _ _)]
        exact (ih hpiece).append (atLineStart_feed first) []

/-- Every line of some code stands in it. -/
theorem lineIn_codeOf {lines : List String} {line : String} (h : line ∈ lines) :
    LineIn line.toList (codeOf lines).toList := by
  obtain ⟨front, back, rfl⟩ := List.append_of_mem h
  rw [codeOf_toList (by simp)]
  refine ⟨(front.map (·.toList)).flatMap (· ++ ['\n']),
    (back.map (·.toList)).flatMap (· ++ ['\n']), ?_, atLineStart_flatMap_feed _⟩
  simp

/-- Code joined of pieces with a blank line between every two has the lines of each piece. -/
theorem lineIn_joinedBy {pieces : List (List String)} {lines : List String}
    (hlines : lines ∈ pieces) {line : String} (h : line ∈ lines) :
    LineIn line.toList (joinedBy "\n" (pieces.map codeOf)).toList := by
  rw [joinedBy, String.toList_ofList, List.map_map]
  exact (lineIn_codeOf h).joined (List.mem_map_of_mem hlines)

end Client

/-! ## Lines of a file -/

namespace Output

open Client

/-- A line stands in a file, where its line ends are those of the file. -/
def GeneratedFile.HasLine (file : GeneratedFile) (line : String) : Prop :=
  ∃ front back, file.content.toList =
    front ++ (Text.unifyLineEnds (line.toList ++ ['\n']) ++ back) ∧ AtLineStart front

/-- Where a line begins, the line ends in front of it do not depend on it. -/
theorem unifyLineEnds_append_of_atLineStart {front : List Char} (h : AtLineStart front) :
    ∃ shown, AtLineStart shown ∧
      ∀ back, Text.unifyLineEnds (front ++ back) = shown ++ Text.unifyLineEnds back := by
  rcases h with rfl | h
  · exact ⟨[], .inl rfl, fun back => rfl⟩
  · obtain ⟨init, rfl⟩ := List.getLast?_eq_some_iff.mp h
    obtain ⟨shown, hshown⟩ := Text.unifyLineEnds_feed init
    refine ⟨shown ++ ['\n'], atLineStart_feed shown, fun back => ?_⟩
    rw [List.append_assoc, List.singleton_append, hshown, List.append_assoc,
      List.singleton_append]

/-- A line of a text stands in the file that the text is written to. -/
theorem hasLine_ofText {line text : String} (h : LineIn line.toList text.toList)
    (name : String) : (GeneratedFile.ofText name text).HasLine line := by
  obtain ⟨front, back, htext, hfront⟩ := h
  obtain ⟨shown, hstart, hshown⟩ := unifyLineEnds_append_of_atLineStart hfront
  obtain ⟨shownLine, hline⟩ := Text.unifyLineEnds_feed line.toList
  refine ⟨shown, Text.unifyLineEnds back, ?_, hstart⟩
  have hcontent : (GeneratedFile.ofText name text).content.toList =
      Text.unifyLineEnds text.toList := String.toList_ofList
  rw [hcontent, htext, hshown, hline, hline [], Text.unifyLineEnds_nil, List.append_assoc,
    List.singleton_append]

end Output

namespace Client

open Output

/-- A file may begin with anything that ends in a line feed. -/
theorem hasLine_behindFeed {line code : String} (h : LineIn line.toList code.toList)
    (name front : String) : (GeneratedFile.ofText name (front ++ "\n" ++ code)).HasLine line := by
  refine hasLine_ofText ?_ name
  rw [String.toList_append, String.toList_append, ← List.append_nil code.toList]
  exact h.append (atLineStart_feed front.toList) []

/-- The lines of a function stand in the file for its module. -/
theorem hasLine_moduleFile {module : ClientModule} {function : ClientFunction}
    (hfunction : function ∈ module.functions) {line : String} (h : line ∈ function.codeLines)
    (banner : String) (preamble : Preamble) (layout : Layout) :
    (moduleFile banner preamble layout module).HasLine line := by
  refine hasLine_behindFeed ?_ _ _
  have hcodes : module.functions.map (·.code) =
      (module.functions.map (·.codeLines)).map codeOf := List.map_map.symm
  rw [ClientModule.code, hcodes]
  exact lineIn_joinedBy (List.mem_map_of_mem hfunction) h

/-- The lines of a declaration stand in the file with the declarations. -/
theorem hasLine_modelsFile {declarations : List Declaration} {declaration : Declaration}
    (hdeclaration : declaration ∈ declarations) {line : String}
    (h : line ∈ declaration.codeLines) (banner : String) (layout : Layout) :
    (modelsFile banner layout declarations).HasLine line := by
  refine hasLine_behindFeed ?_ _ _
  have hcodes : declarations.map (·.code) = (declarations.map (·.codeLines)).map codeOf :=
    List.map_map.symm
  rw [declarationsCode, hcodes]
  exact lineIn_joinedBy (List.mem_map_of_mem hdeclaration) h

end Client

end OpenApiClient
