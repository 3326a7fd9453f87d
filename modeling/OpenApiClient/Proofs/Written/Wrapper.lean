import OpenApiClient.Written.Schema

/-!
# Schemas that wrap another

A schema without a reference, properties and a type of its own, that combines one schema with any
number of schemas for null only, wraps the one. That is how documents say that a named schema may be
null, each in its own way: with the keyword for it, with null among the types, or with a schema for
null beside the one that is meant.

Results:
* `isNullOnly_iff`: which schemas are for null only.
* `resolve_of_wraps`: a wrapper means what it wraps, with notes of its own.
* `resolve_of_layers`: so do any number of wrappers around each other.
* `wrappers_transparent`: shape, null and description of a wrapper, and of a reference under any
  number of them.
-/
namespace OpenApiClient

namespace Schema

@[simp] theorem notes_withNotes (notes : Notes) (schema : Schema) :
    (schema.withNotes notes).notes = notes := by
  cases schema <;> rfl

@[simp] theorem nullable_withNotes (notes : Notes) (schema : Schema) :
    (schema.withNotes notes).nullable = notes.nullable :=
  congrArg Notes.nullable (notes_withNotes notes schema)

@[simp] theorem description_withNotes (notes : Notes) (schema : Schema) :
    (schema.withNotes notes).description = notes.description :=
  congrArg Notes.description (notes_withNotes notes schema)

@[simp] theorem withNotes_withNotes (first second : Notes) (schema : Schema) :
    (schema.withNotes first).withNotes second = schema.withNotes second := by
  cases schema <;> rfl

theorem withNotes_own (schema : Schema) :
    schema.withNotes ⟨schema.nullable, schema.description⟩ = schema := by
  cases schema <;> rfl

end Schema

/-! ## Types and null -/

/-- The types under the keyword. -/
def TypeNames.names : TypeNames → List String
  | one name => [name]
  | several names => names

theorem TypeNames.split_eq (typeNames : TypeNames) :
    typeNames.split =
      (typeNames.names.find? (· ≠ nullType), typeNames.names.contains nullType) := by
  cases typeNames with
  | one name =>
    by_cases h : name = nullType
    · simp [split, names, h]
    · simp [split, names, h, Ne.symm h]
  | several names => rfl

namespace WrittenSchema

/-- The types that a schema gives itself. -/
def types (schema : WrittenSchema) : List String :=
  (schema.typeNames.map TypeNames.names).getD []

/-- The schemas that a schema combines. -/
def variants (schema : WrittenSchema) : List WrittenSchema :=
  schema.allOf ++ schema.oneOf ++ schema.anyOf

/-- A schema for null: null is among its types and nothing else is, and it neither refers to a
schema nor has properties. -/
structure NullOnly (schema : WrittenSchema) : Prop where
  reference : schema.reference = none
  properties : schema.properties = []
  null : nullType ∈ schema.types
  types : ∀ typeName ∈ schema.types, typeName = nullType

theorem splitTypes_eq (schema : WrittenSchema) :
    splitTypes schema.typeNames =
      (schema.types.find? (· ≠ nullType), schema.types.contains nullType) := by
  unfold splitTypes types
  cases schema.typeNames with
  | none => rfl
  | some typeNames => exact typeNames.split_eq

/-- Without a type of its own, a schema has null among its types or no types. -/
theorem splitTypes_of_null {schema : WrittenSchema}
    (h : ∀ typeName ∈ schema.types, typeName = nullType) :
    splitTypes schema.typeNames = (none, schema.types.contains nullType) := by
  rw [splitTypes_eq, List.find?_eq_none.mpr]
  simpa using h

theorem isNullOnly_iff (schema : WrittenSchema) : schema.isNullOnly ↔ schema.NullOnly := by
  have htypes : splitTypes schema.typeNames = (none, true) ↔
      (∀ typeName ∈ schema.types, typeName = nullType) ∧ nullType ∈ schema.types := by
    rw [splitTypes_eq]
    simp
  unfold isNullOnly
  rw [Bool.and_eq_true, Bool.and_eq_true, decide_eq_true_iff, htypes, Option.isNone_iff_eq_none,
    List.isEmpty_iff]
  constructor
  · rintro ⟨⟨hreference, hproperties⟩, hall, hnull⟩
    exact ⟨hreference, hproperties, hnull, hall⟩
  · rintro ⟨hreference, hproperties, hnull, hall⟩
    exact ⟨⟨hreference, hproperties⟩, hall, hnull⟩

/-! ## One wrapper -/

/-- A schema wraps another: it combines that one with schemas for null, in any order and under any
of the three keywords, and says nothing else about the shape. -/
structure Wraps (wrapper inner : WrittenSchema) : Prop where
  reference : wrapper.reference = none
  properties : wrapper.properties = []
  types : ∀ typeName ∈ wrapper.types, typeName = nullType
  variants : ∃ front back, wrapper.variants = front ++ inner :: back ∧
    ∀ variant ∈ front ++ back, variant.NullOnly
  meant : ¬ inner.NullOnly

/-- A wrapper says that null is allowed: with the keyword for it, among its types, or with one of
the schemas that it combines. -/
def SaysNull (wrapper : WrittenSchema) : Prop :=
  wrapper.nullable ∨ nullType ∈ wrapper.types ∨ ∃ variant ∈ wrapper.variants, variant.NullOnly

def saysNull (wrapper : WrittenSchema) : Bool :=
  wrapper.nullable || (wrapper.types.contains nullType || wrapper.variants.any isNullOnly)

theorem saysNull_iff (wrapper : WrittenSchema) : wrapper.saysNull ↔ wrapper.SaysNull := by
  simp [saysNull, SaysNull, isNullOnly_iff]

/-- Among schemas for null the one that is meant is found. -/
theorem singleVariant_of_wraps {wrapper inner : WrittenSchema} (h : wrapper.Wraps inner) :
    singleVariant (resolveVariants wrapper.variants) =
      some (inner.resolve, wrapper.variants.any isNullOnly) := by
  obtain ⟨front, back, hvariants, hnull⟩ := h.variants
  have hskipped : ∀ variants : List WrittenSchema, variants ⊆ front ++ back →
      variants.filter (!·.isNullOnly) = [] := by
    intro variants hsubset
    refine List.filter_eq_nil_iff.mpr fun variant hm => ?_
    simp [(isNullOnly_iff variant).mpr (hnull variant (hsubset hm))]
  have hmeant : inner.isNullOnly = false :=
    Bool.eq_false_iff.mpr fun hinner => h.meant ((isNullOnly_iff inner).mp hinner)
  have hfilter : wrapper.variants.filter (!·.isNullOnly) = [inner] := by
    rw [hvariants, List.filter_append, hskipped front (List.subset_append_left _ _),
      List.filter_cons_of_pos (by simp [hmeant]), hskipped back (List.subset_append_right _ _)]
    rfl
  unfold singleVariant
  rw [resolveVariants_eq_map, List.filter_map, List.any_map]
  simp only [Function.comp_def, hfilter, List.map_cons, List.map_nil]

/-- A wrapper means what it wraps. Null is allowed if either of them says so, and the description is
that of the wrapper, if it has one. -/
theorem resolve_of_wraps {wrapper inner : WrittenSchema} (h : wrapper.Wraps inner) :
    wrapper.resolve = inner.resolve.withNotes
      ⟨wrapper.saysNull || inner.resolve.nullable,
        wrapper.description.or inner.resolve.description⟩ := by
  have hsingle := singleVariant_of_wraps h
  have hsplit := splitTypes_of_null h.types
  have hreference := h.reference
  have hproperties := h.properties
  have hnotes : ∀ inside : Bool,
      ((wrapper.nullable || wrapper.types.contains nullType) ||
        (wrapper.variants.any isNullOnly || inside)) = (wrapper.saysNull || inside) := by
    simp only [saysNull, Bool.or_assoc, implies_true]
  -- `resolve` opens only on the fields of the wrapper: what is known of the whole is set aside
  generalize wrapper.saysNull = null at hnotes
  generalize wrapper.types.contains nullType = typeNull at hsplit hnotes
  generalize hvariants : wrapper.variants = variants at hsingle hnotes
  obtain ⟨reference, typeNames, items, properties, nullable, description, allOf, oneOf, anyOf⟩ :=
    wrapper
  subst hreference hproperties
  have hjoined : resolveVariants allOf ++ resolveVariants oneOf ++ resolveVariants anyOf =
      resolveVariants variants := by
    simp [← hvariants, WrittenSchema.variants, resolveVariants_eq_map]
  simp only [resolve, hsplit, List.isEmpty_nil, Bool.not_true, Bool.false_eq_true, if_false,
    hjoined, hsingle]
  rw [← hnotes]

/-! ## Wrappers around each other -/

/-- `outer` is `base` inside wrappers, listed from the outermost to the innermost. -/
inductive Layers (base : WrittenSchema) : WrittenSchema → List WrittenSchema → Prop
  | bare : Layers base base []
  | wrap {outer next : WrittenSchema} {wrappers : List WrittenSchema} (hwraps : outer.Wraps next)
      (hnext : Layers base next wrappers) : Layers base outer (outer :: wrappers)

/-- Under any number of wrappers a schema keeps its meaning. Null is allowed if some level says so,
and the outermost description counts. -/
theorem resolve_of_layers {base outer : WrittenSchema} {wrappers : List WrittenSchema}
    (h : Layers base outer wrappers) :
    outer.resolve = base.resolve.withNotes
      ⟨wrappers.any saysNull || base.resolve.nullable,
        (wrappers.findSome? (·.description)).or base.resolve.description⟩ := by
  induction h with
  | bare => exact base.resolve.withNotes_own.symm
  | @wrap outer next wrappers hwraps hnext ih =>
    rw [resolve_of_wraps hwraps, ih]
    simp only [Schema.withNotes_withNotes, Schema.nullable_withNotes,
      Schema.description_withNotes, List.any_cons, List.findSome?_cons, Bool.or_assoc]
    cases outer.description <;> rfl

/-- A reference means the schema that it names, and null as far as it says so itself. -/
theorem resolve_of_reference {schema : WrittenSchema} {reference name : String}
    (h : schema.reference = some reference) (hname : schemaOfReference reference = some name) :
    schema.resolve =
      .reference name ⟨schema.nullable || schema.types.contains nullType, schema.description⟩ := by
  have hsplit := splitTypes_eq schema
  generalize schema.types.contains nullType = typeNull at hsplit
  obtain ⟨_, typeNames, items, properties, nullable, description, allOf, oneOf, anyOf⟩ := schema
  subst h
  simp only [resolve, hsplit, hname]

/-- Wrappers are transparent. A wrapper has the shape of what it wraps; it may be null exactly if
the keyword for it is set, null is among its types, one of the schemas that it combines is for null
only, or what it wraps may be null; and it has a description of its own or that of what it wraps.
A reference under any number of wrappers is that reference, and may be null exactly if some level
says so. -/
theorem wrappers_transparent :
    (∀ wrapper inner : WrittenSchema, wrapper.Wraps inner →
      wrapper.resolve.withNotes {} = inner.resolve.withNotes {} ∧
        (wrapper.resolve.nullable ↔ wrapper.nullable ∨ nullType ∈ wrapper.types ∨
          (∃ variant ∈ wrapper.variants, variant.NullOnly) ∨ inner.resolve.nullable) ∧
        wrapper.resolve.description = wrapper.description.or inner.resolve.description) ∧
    ∀ (outer base : WrittenSchema) (wrappers : List WrittenSchema) (reference name : String),
      Layers base outer wrappers → base.reference = some reference →
      schemaOfReference reference = some name →
        ∃ notes, outer.resolve = .reference name notes ∧
          (notes.nullable ↔ base.nullable ∨ nullType ∈ base.types ∨
            ∃ wrapper ∈ wrappers, wrapper.SaysNull) := by
  constructor
  · intro wrapper inner h
    have hresolve := resolve_of_wraps h
    refine ⟨?_, ?_, ?_⟩
    · rw [hresolve, Schema.withNotes_withNotes]
    · rw [hresolve, Schema.nullable_withNotes, Bool.or_eq_true, saysNull_iff, SaysNull, or_assoc,
        or_assoc]
    · rw [hresolve, Schema.description_withNotes]
  · intro outer base wrappers reference name h hreference hname
    have hresolve := resolve_of_layers h
    rw [resolve_of_reference hreference hname] at hresolve
    refine ⟨_, hresolve, ?_⟩
    simp only [Schema.nullable, Schema.notes, Bool.or_eq_true, List.any_eq_true, saysNull_iff,
      List.contains_iff_mem]
    rw [or_comm, or_assoc]

def pet : WrittenSchema := { reference := some "#/components/schemas/Pet" }

/-- A pet that may be missing: the schema for null stands in front of the one that is meant. -/
def missingPet : WrittenSchema :=
  { oneOf := [{ typeNames := some (.several [nullType, nullType]) }, pet]
    description := some "A pet" }

/-- The same in one more wrapper, which says nothing. -/
def boxedPet : WrittenSchema := { typeNames := some (.several []), allOf := [missingPet] }

theorem wrappers_transparent_pet :
    missingPet.Wraps pet ∧ boxedPet.Wraps missingPet ∧
      boxedPet.resolve.description = some "A pet" ∧
      ∃ notes, boxedPet.resolve = .reference "Pet" notes ∧ notes.nullable := by
  have hnull : NullOnly { typeNames := some (.several [nullType, nullType]) } :=
    (isNullOnly_iff _).mp (by decide)
  have hmissing : missingPet.Wraps pet :=
    { reference := rfl
      properties := rfl
      types := nofun
      variants := ⟨[_], [], rfl, List.forall_mem_singleton.mpr hnull⟩
      meant := fun h => absurd h.reference (by decide) }
  have hboxed : boxedPet.Wraps missingPet :=
    { reference := rfl
      properties := rfl
      types := nofun
      variants := ⟨[], [], rfl, nofun⟩
      meant := fun h => nomatch h.null }
  have hdescription : boxedPet.resolve.description = missingPet.resolve.description :=
    (wrappers_transparent.1 boxedPet missingPet hboxed).2.2
  rw [(wrappers_transparent.1 missingPet pet hmissing).2.2] at hdescription
  obtain ⟨notes, hresolve, hnotes⟩ := wrappers_transparent.2 boxedPet pet [boxedPet, missingPet]
    _ "Pet" (.wrap hboxed (.wrap hmissing .bare)) rfl (by decide +kernel)
  have hsays : missingPet.SaysNull := .inr (.inr ⟨_, List.mem_cons_self, hnull⟩)
  exact ⟨hmissing, hboxed, hdescription, notes, hresolve,
    hnotes.mpr (.inr (.inr ⟨missingPet, by simp, hsays⟩))⟩

end WrittenSchema

end OpenApiClient
