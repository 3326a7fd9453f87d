import Mathlib.Logic.Relation
import OpenApiClient.Written.Document

/-!
# Parameters of a path and of its operations

A path declares parameters for all of its operations, and an operation declares parameters of its
own. What a parameter is declared for is its slot: its name together with its place, as the document
words them, so that a header and a cookie are different slots even though neither is ever sent. An
operation overrides the parameters of the path in the slots that it declares itself.

Results:
* `holding_iff`: which parameters hold for an operation, slot by slot, leaves no choice.
* `resolveParameters_eq`: those are the ones that an operation is given.
* `inheritedParameters_of_edits`: edits that an operation does not see leave its parameters as they
  are.
* `resolve_operation_per_slot`: all of this for the operations of a path.
-/
namespace OpenApiClient

/-! ## Lists by their keys -/

/-- Some members of a list are all of them if none is left out under any key. -/
theorem eq_of_sublist_of_filter_eq {α β : Type} [DecidableEq β] (key : α → β) {part whole : List α}
    (h : part.Sublist whole)
    (hkey : ∀ x ∈ whole, part.filter (key · = key x) = whole.filter (key · = key x)) :
    part = whole := by
  induction h with
  | slnil => rfl
  | @cons part whole x h ih =>
    -- `x` itself is left out under its own key
    have hlength := congrArg List.length (hkey x List.mem_cons_self)
    rw [List.filter_cons_of_pos (by simp), List.length_cons] at hlength
    have hle := (h.filter (key · = key x)).length_le
    omega
  | @cons_cons part whole x h ih =>
    refine congrArg (x :: ·) (ih fun y hy => ?_)
    have hy := hkey y (List.mem_cons_of_mem _ hy)
    by_cases hxy : key x = key y
    · simpa [hxy] using hy
    · simpa [hxy] using hy

/-! ## Slots -/

namespace WrittenParameter

/-- What a parameter is declared for: its name and its place, as the document words them. -/
def slot (parameter : WrittenParameter) : String × String := (parameter.name, parameter.location)

theorem overrides_iff (own shared : WrittenParameter) :
    own.overrides shared ↔ own.slot = shared.slot := by
  simp [overrides, slot]

end WrittenParameter

/-- The slots of parameters. -/
def slots (parameters : List WrittenParameter) : List (String × String) :=
  parameters.map (·.slot)

/-- A parameter is overridden if its slot is taken. -/
theorem exists_overrides_iff {own : List WrittenParameter} {parameter : WrittenParameter} :
    (∃ override ∈ own, override.overrides parameter) ↔ parameter.slot ∈ slots own := by
  simp only [WrittenParameter.overrides_iff, slots, List.mem_map]

/-- The parameters that hold for an operation. In every slot with a name they are its own, if it
declares some there, and those of its path otherwise. Those of the path come first, and both keep
their order. -/
structure Holding (shared own held : List WrittenParameter) : Prop where
  named : ∀ parameter ∈ held, parameter.name ≠ ""
  perSlot : ∀ slot : String × String, slot.1 ≠ "" →
    held.filter (·.slot = slot) =
      (if slot ∈ slots own then own else shared).filter (·.slot = slot)
  ordered : ∃ inherited kept, held = inherited ++ kept ∧ inherited.Sublist shared ∧
    kept.Sublist own ∧ ∀ parameter ∈ inherited, parameter.slot ∉ slots own

/-- What an operation inherits from its path. -/
def inheritedParameters (shared own : List WrittenParameter) : List WrittenParameter :=
  shared.filter fun parameter => parameter.name ≠ "" ∧ parameter.slot ∉ slots own

/-- The parameters with a name. -/
def namedParameters (parameters : List WrittenParameter) : List WrittenParameter :=
  parameters.filter (·.name ≠ "")

section

variable {shared own : List WrittenParameter}

theorem mem_inheritedParameters {parameter : WrittenParameter} :
    parameter ∈ inheritedParameters shared own ↔
      parameter ∈ shared ∧ parameter.name ≠ "" ∧ parameter.slot ∉ slots own := by
  simp [inheritedParameters]

theorem mem_namedParameters {parameter : WrittenParameter} :
    parameter ∈ namedParameters own ↔ parameter ∈ own ∧ parameter.name ≠ "" := by
  simp [namedParameters]

theorem filter_slot_eq_nil {parameters : List WrittenParameter} {slot : String × String}
    (h : slot ∉ slots parameters) : parameters.filter (·.slot = slot) = [] := by
  refine List.filter_eq_nil_iff.mpr fun parameter hm hslot => h ?_
  exact List.mem_map.mpr ⟨parameter, hm, of_decide_eq_true hslot⟩

/-- A slot whose parameters are all kept or all left out is kept or left out as a whole. -/
theorem filter_filter_slot {keeps : WrittenParameter → Bool} {slot : String × String} {kept : Bool}
    (h : ∀ parameter : WrittenParameter, parameter.slot = slot → keeps parameter = kept)
    (parameters : List WrittenParameter) :
    (parameters.filter keeps).filter (·.slot = slot) =
      if kept then parameters.filter (·.slot = slot) else [] := by
  have hslot : ∀ parameter : WrittenParameter,
      (decide (parameter.slot = slot) && keeps parameter) =
        (decide (parameter.slot = slot) && kept) := by
    intro parameter
    by_cases hslot : parameter.slot = slot
    · rw [h parameter hslot]
    · simp [hslot]
  rw [List.filter_filter, funext hslot]
  cases kept <;> simp

theorem filter_inheritedParameters {slot : String × String} (hname : slot.1 ≠ "") :
    (inheritedParameters shared own).filter (·.slot = slot) =
      if slot ∉ slots own then shared.filter (·.slot = slot) else [] := by
  have hkeeps : ∀ parameter : WrittenParameter, parameter.slot = slot →
      decide (parameter.name ≠ "" ∧ parameter.slot ∉ slots own) = decide (slot ∉ slots own) := by
    rintro parameter rfl
    exact decide_eq_decide.mpr (and_iff_right hname)
  unfold inheritedParameters
  rw [filter_filter_slot hkeeps]
  simp only [decide_eq_true_iff]

theorem filter_namedParameters {slot : String × String} (hname : slot.1 ≠ "") :
    (namedParameters own).filter (·.slot = slot) = own.filter (·.slot = slot) := by
  have hkeeps : ∀ parameter : WrittenParameter, parameter.slot = slot →
      decide (parameter.name ≠ "") = true := by
    rintro parameter rfl
    exact decide_eq_true hname
  exact filter_filter_slot hkeeps own

theorem holding_inherited (shared own : List WrittenParameter) :
    Holding shared own (inheritedParameters shared own ++ namedParameters own) where
  named := by
    intro parameter hm
    rcases List.mem_append.mp hm with hm | hm
    · exact (mem_inheritedParameters.mp hm).2.1
    · exact (mem_namedParameters.mp hm).2
  perSlot := by
    intro slot hname
    rw [List.filter_append, filter_inheritedParameters hname, filter_namedParameters hname]
    by_cases hown : slot ∈ slots own
    · rw [if_pos hown, if_neg (not_not_intro hown), List.nil_append]
    · rw [if_neg hown, if_pos hown, filter_slot_eq_nil hown, List.append_nil]
  ordered := ⟨_, _, rfl, List.filter_sublist, List.filter_sublist,
    fun _ hm => (mem_inheritedParameters.mp hm).2.2⟩

/-- Some parameters of a path, all with names and none overridden, are what an operation inherits if
they hold everything in each slot that it does not declare. -/
theorem eq_inheritedParameters {inherited : List WrittenParameter} (h : inherited.Sublist shared)
    (hseen : ∀ parameter ∈ inherited, parameter.name ≠ "" ∧ parameter.slot ∉ slots own)
    (hslots : ∀ slot : String × String, slot.1 ≠ "" → slot ∉ slots own →
      inherited.filter (·.slot = slot) = shared.filter (·.slot = slot)) :
    inherited = inheritedParameters shared own := by
  have hpart : inherited.Sublist (inheritedParameters shared own) := by
    have hall : inherited.filter (fun parameter =>
        parameter.name ≠ "" ∧ parameter.slot ∉ slots own) = inherited :=
      List.filter_eq_self.mpr fun parameter hm => decide_eq_true (hseen parameter hm)
    exact hall ▸ h.filter _
  refine eq_of_sublist_of_filter_eq WrittenParameter.slot hpart fun parameter hm => ?_
  obtain ⟨-, hname, hown⟩ := mem_inheritedParameters.mp hm
  rw [hslots parameter.slot hname hown, filter_inheritedParameters hname, if_pos hown]

/-- Some parameters of an operation, all with names, are its named ones if they hold everything in
each slot that it declares. -/
theorem eq_namedParameters {kept : List WrittenParameter} (h : kept.Sublist own)
    (hnamed : ∀ parameter ∈ kept, parameter.name ≠ "")
    (hslots : ∀ slot : String × String, slot.1 ≠ "" → slot ∈ slots own →
      kept.filter (·.slot = slot) = own.filter (·.slot = slot)) :
    kept = namedParameters own := by
  have hpart : kept.Sublist (namedParameters own) := by
    have hall : kept.filter (·.name ≠ "") = kept :=
      List.filter_eq_self.mpr fun parameter hm => decide_eq_true (hnamed parameter hm)
    exact hall ▸ h.filter _
  refine eq_of_sublist_of_filter_eq WrittenParameter.slot hpart fun parameter hm => ?_
  obtain ⟨hmem, hname⟩ := mem_namedParameters.mp hm
  rw [hslots parameter.slot hname (List.mem_map_of_mem hmem), filter_namedParameters hname]

/-- No other parameters hold for an operation. -/
theorem holding_iff {held : List WrittenParameter} :
    Holding shared own held ↔ held = inheritedParameters shared own ++ namedParameters own := by
  constructor
  · rintro ⟨hnamed, hslots, inherited, kept, rfl, hinherited, hkept, hfree⟩
    simp only [List.mem_append] at hnamed
    -- no slot has parameters from both parts, so what a slot holds fixes each part
    have hinheritedAll : inherited = inheritedParameters shared own := by
      refine eq_inheritedParameters hinherited
        (fun parameter hm => ⟨hnamed parameter (.inl hm), hfree parameter hm⟩)
        fun slot hname hown => ?_
      have hnone : slot ∉ slots kept := fun hm => hown ((hkept.map _).subset hm)
      have hslot := hslots slot hname
      rwa [if_neg hown, List.filter_append, filter_slot_eq_nil hnone, List.append_nil] at hslot
    have hkeptAll : kept = namedParameters own := by
      refine eq_namedParameters hkept (fun parameter hm => hnamed parameter (.inr hm))
        fun slot hname hown => ?_
      have hnone : slot ∉ slots inherited := by
        intro hm
        obtain ⟨parameter, hparameter, rfl⟩ := List.mem_map.mp hm
        exact hfree parameter hparameter hown
      have hslot := hslots slot hname
      rwa [if_pos hown, List.filter_append, filter_slot_eq_nil hnone, List.nil_append] at hslot
    rw [hinheritedAll, hkeptAll]
  · rintro rfl
    exact holding_inherited shared own

/-- An operation is given what it inherits, and then its own parameters. -/
theorem resolveParameters_eq (shared own : List WrittenParameter) :
    resolveParameters shared own =
      (inheritedParameters shared own ++ namedParameters own).map (·.resolve) := by
  have htaken : ∀ parameter : WrittenParameter,
      own.any (·.overrides parameter) = decide (parameter.slot ∈ slots own) := by
    intro parameter
    rw [Bool.eq_iff_iff, List.any_eq_true, decide_eq_true_iff, exists_overrides_iff]
  unfold resolveParameters inheritedParameters namedParameters
  simp only [htaken, List.filter_append, List.filter_filter, Bool.decide_and, decide_not]

end

/-! ## Edits that an operation does not see -/

/-- An operation does not see the parameters of its path that it overrides, and those without a
name. -/
def Unseen (own : List WrittenParameter) (parameter : WrittenParameter) : Prop :=
  parameter.name = "" ∨ ∃ override ∈ own, override.overrides parameter

/-- One edit of the parameters of a path that an operation does not see. -/
inductive UnseenEdit (own : List WrittenParameter) :
    List WrittenParameter → List WrittenParameter → Prop
  | add (front back : List WrittenParameter) {parameter : WrittenParameter}
      (h : Unseen own parameter) :
      UnseenEdit own (front ++ back) (front ++ parameter :: back)
  | remove (front back : List WrittenParameter) {parameter : WrittenParameter}
      (h : Unseen own parameter) :
      UnseenEdit own (front ++ parameter :: back) (front ++ back)
  | change (front back : List WrittenParameter) {before after : WrittenParameter}
      (hbefore : Unseen own before) (hafter : Unseen own after) :
      UnseenEdit own (front ++ before :: back) (front ++ after :: back)

section

variable {own shared other : List WrittenParameter}

theorem unseen_iff {parameter : WrittenParameter} :
    Unseen own parameter ↔ ¬ (parameter.name ≠ "" ∧ parameter.slot ∉ slots own) := by
  rw [Unseen, exists_overrides_iff, Decidable.not_and_iff_not_or_not, Decidable.not_not,
    Decidable.not_not]

theorem inheritedParameters_of_unseen {parameter : WrittenParameter} (h : Unseen own parameter)
    (front back : List WrittenParameter) :
    inheritedParameters (front ++ parameter :: back) own =
      inheritedParameters (front ++ back) own := by
  unfold inheritedParameters
  rw [List.filter_append, List.filter_append,
    List.filter_cons_of_neg (by simpa using unseen_iff.mp h)]

theorem inheritedParameters_of_edit (h : UnseenEdit own shared other) :
    inheritedParameters other own = inheritedParameters shared own := by
  cases h with
  | add front back h => exact inheritedParameters_of_unseen h front back
  | remove front back h => exact (inheritedParameters_of_unseen h front back).symm
  | change front back hbefore hafter =>
    rw [inheritedParameters_of_unseen hbefore, inheritedParameters_of_unseen hafter]

theorem inheritedParameters_of_edits (h : Relation.ReflTransGen (UnseenEdit own) shared other) :
    inheritedParameters other own = inheritedParameters shared own := by
  induction h with
  | refl => rfl
  | tail _ hedit ih => rw [inheritedParameters_of_edit hedit, ih]

end

/-! ## The operations of a path -/

/-- An operation is given the parameters that hold for it, slot by slot, and nothing else is a
choice of such parameters. However the parameters of its path are edited, as long as the edits are
to parameters that it overrides or that have no name, it stays what it was. -/
theorem resolve_operation_per_slot {item : WrittenPathItem} {method : Method}
    {written : WrittenOperation} (h : item.operations.get? method = some written) :
    ∃ operation, item.resolve.get? method = some operation ∧
      (∃ held, operation.parameters = held.map (·.resolve) ∧
        ∀ parameters, Holding item.parameters written.parameters parameters ↔
          parameters = held) ∧
      ∀ shared, Relation.ReflTransGen (UnseenEdit written.parameters) item.parameters shared →
        ({ item with parameters := shared } : WrittenPathItem).resolve.get? method =
          some operation := by
  have hresolve : ∀ shared, ({ item with parameters := shared } : WrittenPathItem).resolve.get?
      method = some (written.resolve shared) := by
    intro shared
    unfold WrittenPathItem.resolve
    rw [Keyed.get?_map, h]
    rfl
  refine ⟨written.resolve item.parameters, hresolve item.parameters, ?_, ?_⟩
  · exact ⟨_, resolveParameters_eq item.parameters written.parameters, fun _ => holding_iff⟩
  · intro shared hedits
    rw [hresolve shared]
    unfold WrittenOperation.resolve
    rw [resolveParameters_eq, resolveParameters_eq, inheritedParameters_of_edits hedits]

/-- A parameter of which only the slot matters. -/
def declared (name location : String) : WrittenParameter := { name := name, location := location }

/-- An operation that fills two slots of its path, one of them twice. -/
def listing : WrittenOperation :=
  { parameters := [declared "size" "query", declared "id" "cookie", declared "size" "query"] }

/-- A path that declares one name in two places, one slot twice, and a parameter without a name. -/
def browsing : WrittenPathItem :=
  { parameters := [declared "id" "header", declared "id" "cookie", declared "" "query",
      declared "page" "query", declared "size" "query", declared "page" "query"]
    operations := .ofList [(.post, {}), (.get, listing)] }

/-- The same parameters without the nameless one and one that is overridden, and with another
in place of the second that is. -/
def rebrowsing : List WrittenParameter :=
  [declared "id" "header", declared "page" "query", declared "id" "cookie", declared "page" "query"]

theorem resolve_operation_per_slot_browsing :
    browsing.operations.get? .get = some listing ∧
      Relation.ReflTransGen (UnseenEdit listing.parameters) browsing.parameters rebrowsing ∧
      ∃ operation, browsing.resolve.get? .get = some operation ∧
        ({ browsing with parameters := rebrowsing } : WrittenPathItem).resolve.get? .get =
          some operation ∧
        operation.parameters.map (fun parameter => (parameter.name, parameter.location)) =
          [("id", .other), ("page", .query), ("page", .query), ("size", .query), ("id", .other),
            ("size", .query)] := by
  have hget : browsing.operations.get? .get = some listing := rfl
  have hcookie : Unseen listing.parameters (declared "id" "cookie") :=
    .inr ⟨declared "id" "cookie", by simp [listing], by decide⟩
  have hsize : Unseen listing.parameters (declared "size" "query") :=
    .inr ⟨declared "size" "query", by simp [listing], by decide⟩
  have hedits : Relation.ReflTransGen (UnseenEdit listing.parameters) browsing.parameters
      rebrowsing :=
    ((Relation.ReflTransGen.single (.remove [_] [_, _, _, _] hcookie)).tail
      (.remove [_] [_, _, _] (.inl rfl))).tail (.change [_, _] [_] hsize hcookie)
  obtain ⟨operation, hoperation, -, hsame⟩ := resolve_operation_per_slot hget
  have hshown : (browsing.resolve.get? .get).map (fun operation =>
      operation.parameters.map fun parameter => (parameter.name, parameter.location)) =
        some [("id", .other), ("page", .query), ("page", .query), ("size", .query),
          ("id", .other), ("size", .query)] := by
    decide +kernel
  rw [hoperation] at hshown
  exact ⟨hget, hedits, operation, hoperation, hsame rebrowsing hedits, Option.some.inj hshown⟩

end OpenApiClient
