import OpenApiClient.Client.Function
import OpenApiClient.Proofs.Client.FreshName
import OpenApiClient.Proofs.Naming.Identifier

/-!
# What the arguments of a function look like

Results:
* `mem_ofParameters`: an argument belongs to a parameter that is sent.
* `ident_chars`: the name of an argument is made of the characters of names.
-/
namespace OpenApiClient.Client

open Naming

variable {spell : List Char → List Char}

theorem wantedName_chars (spell : List Char → List Char) (index : Nat) (name : String) :
    ∀ c ∈ (wantedName spell index name).toList, NameChar c := by
  unfold wantedName
  simp only
  split
  · intro c hc
    rw [String.toList_append, List.mem_append] at hc
    rcases hc with hc | hc
    · have hletter : c = 'a' ∨ c = 'r' ∨ c = 'g' := by simpa using hc
      rcases hletter with rfl | rfl | rfl <;> exact .inl (by decide)
    · have hdigit : c.isDigit := by
        rw [Nat.toString_eq_ofList_toDigits, String.toList_ofList] at hc
        exact Nat.isDigit_of_mem_toDigits (by decide) (by decide) hc
      left
      simp [Char.isAlphanum, hdigit]
  · exact functionNameBy_chars spell name

theorem underscored_chars {base : String} (h : ∀ c ∈ base.toList, NameChar c) (k : Nat) :
    ∀ c ∈ (underscored base k).toList, NameChar c := by
  intro c hc
  rw [underscored_toList, List.mem_append] at hc
  rcases hc with hc | hc
  · exact h c hc
  · exact .inr (List.eq_of_mem_replicate hc)

theorem freshName_chars {taken : List String} {base : String}
    (h : ∀ c ∈ base.toList, NameChar c) : ∀ c ∈ (freshName taken base).toList, NameChar c := by
  obtain ⟨k, -, heq, -⟩ := freshName_eq taken base
  rw [heq]
  exact underscored_chars h k

/-- Small letters grow into a name. -/
theorem freshName_chars_of_lower {taken : List String} {base : String}
    (h : base.toList.all Char.isLower) : ∀ c ∈ (freshName taken base).toList, NameChar c :=
  freshName_chars fun c hc =>
    .inl (by simp [Char.isAlphanum, Char.isAlpha, List.all_eq_true.mp h c hc])

theorem freshNames_chars {taken bases : List String}
    (h : ∀ base ∈ bases, ∀ c ∈ base.toList, NameChar c) :
    ∀ name ∈ freshNames taken bases, ∀ c ∈ name.toList, NameChar c := by
  intro name hname
  obtain ⟨base, hbase, k, rfl⟩ := mem_freshNames hname
  exact underscored_chars (h base hbase) k

namespace Argument

theorem mem_ofParameters {hasPayload : Bool} {parameters : List Parameter} {argument : Argument}
    (h : argument ∈ ofParameters spell hasPayload parameters) :
    ∃ parameter ∈ parameters, isSent parameter ∧ ∃ ident,
      argument = ofParameter parameter ident ∧ ∀ c ∈ ident.toList, NameChar c := by
  unfold ofParameters at h
  obtain ⟨i, hi, rfl⟩ := List.mem_iff_getElem.mp h
  rw [List.getElem_zipWith]
  have hlength : i < (parameters.filter isSent).length := by
    simp only [List.length_zipWith] at hi; omega
  obtain ⟨hparameter, hsent⟩ := List.mem_filter.mp (List.getElem_mem hlength)
  refine ⟨_, hparameter, hsent, _, rfl, ?_⟩
  refine freshNames_chars ?_ _ (List.getElem_mem _)
  intro base hb
  obtain ⟨j, hj, rfl⟩ := List.mem_mapIdx.mp hb
  exact wantedName_chars spell j _

end Argument

/-- The arguments of the function for an operation have names that code can use. -/
theorem ident_chars {parse : List Char → Option MediaType} {name : String} {method : Method}
    {path : String} {operation : Operation} {argument : Argument}
    (h : argument ∈
      (ClientFunction.ofOperation spell parse name method path operation).arguments) :
    ∀ c ∈ argument.ident.toList, NameChar c := by
  obtain ⟨parameter, -, -, ident, rfl, hchars⟩ := Argument.mem_ofParameters h
  exact hchars

end OpenApiClient.Client
