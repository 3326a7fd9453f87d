import OpenApiClient.Schema

/-!
# Type expressions

The type expression of an array is that of its element, any number of arrays further in, with a
pair of brackets behind it for each array on the way. A qualifier stands in front of all of it if
the element is a reference, and nowhere if it is anything else. Whether null is allowed shows for
the outermost schema only.

Results:
* `typeText_eq`: the element, and the brackets behind it.
* `typeText_qualifier`: what a qualifier changes.
* `typeText_of_sameType`, `nullableTypeText_inj`: what the notes of a schema and of those inside it
  change.
* `typeText_qualified`: all of this for one schema and one qualifier.
-/
namespace OpenApiClient.Schema

/-- The schema inside all arrays. -/
def element : Schema → Schema
  | .primitive typeName notes => .primitive typeName notes
  | .array items _ => items.element
  | .object properties notes => .object properties notes
  | .reference name notes => .reference name notes

/-- How many arrays there are around the element. -/
def depth : Schema → Nat
  | .primitive .. => 0
  | .array items _ => items.depth + 1
  | .object .. => 0
  | .reference .. => 0

/-- What stands behind the innermost type of an array: a pair of brackets for each array. -/
def brackets : Schema → String
  | .primitive .. => ""
  | .array items _ => items.brackets ++ "[]"
  | .object .. => ""
  | .reference .. => ""

def isReference : Schema → Bool
  | .primitive .. => false
  | .array .. => false
  | .object .. => false
  | .reference .. => true

/-- Two schemas of the same type: they have the same arrays around the same element. What they and
the schemas inside them say besides, and the properties of an object, may differ. -/
inductive SameType : Schema → Schema → Prop
  | primitive (typeName : String) (first second : Notes) :
      SameType (.primitive typeName first) (.primitive typeName second)
  | array {items others : Schema} (h : SameType items others) (first second : Notes) :
      SameType (.array items first) (.array others second)
  | object (properties others : List (String × Schema)) (first second : Notes) :
      SameType (.object properties first) (.object others second)
  | reference (name : String) (first second : Notes) :
      SameType (.reference name first) (.reference name second)

theorem brackets_eq (schema : Schema) :
    schema.brackets = String.join (List.replicate schema.depth "[]") := by
  fun_induction brackets schema with
  | case2 items notes ih => simp [depth, List.replicate_succ', ih]
  | case1 | case3 | case4 => rfl

theorem typeText_eq (schema : Schema) (qualifier : String) :
    schema.typeText qualifier = schema.element.typeText qualifier ++ schema.brackets := by
  fun_induction element schema with
  | case2 items notes ih => rw [typeText, ih, brackets, String.append_assoc]
  | case1 | case3 | case4 => exact String.append_empty.symm

/-- A qualifier stands in front of the whole expression if the element is a reference. -/
theorem typeText_qualifier (schema : Schema) (qualifier : String) :
    schema.typeText qualifier =
      if schema.element.isReference then qualifier ++ schema.typeText ""
      else schema.typeText "" := by
  fun_induction element schema with
  | case1 | case3 => rfl
  | case2 items notes ih =>
    rw [typeText, typeText, ih]
    split
    · rw [String.append_assoc]
    · rfl
  | case4 name notes => simp [typeText, isReference]

theorem typeText_of_sameType {schema other : Schema} (h : SameType schema other)
    (qualifier : String) : other.typeText qualifier = schema.typeText qualifier := by
  induction h with
  | array _ _ _ ih => rw [typeText, typeText, ih]
  | primitive | object | reference => rfl

theorem marked_eq (typeText : String) (nullable : Bool) :
    marked typeText nullable = typeText ++ if nullable then " | null" else "" := by
  cases nullable with
  | false => exact String.append_empty.symm
  | true => rfl

theorem nullableTypeText_inj {schema other : Schema} (h : SameType schema other)
    (qualifier : String) :
    other.nullableTypeText qualifier = schema.nullableTypeText qualifier ↔
      other.nullable = schema.nullable := by
  unfold nullableTypeText
  rw [typeText_of_sameType h, marked_eq, marked_eq, String.append_right_inj]
  cases other.nullable <;> cases schema.nullable <;> decide

/-- A schema has the same type with any qualifier and with none. Both expressions end in a pair of
brackets for each array around the element. The qualifier is put in front if the element is a
reference, and changes nothing if it is not. The mark of null follows exactly if the schema itself
is nullable, whatever the schemas inside it say. -/
theorem typeText_qualified (schema : Schema) (qualifier : String) :
    schema.typeText "" =
        schema.element.typeText "" ++ String.join (List.replicate schema.depth "[]") ∧
      schema.typeText qualifier =
        schema.element.typeText qualifier ++ String.join (List.replicate schema.depth "[]") ∧
      schema.typeText qualifier =
        (if schema.element.isReference then qualifier ++ schema.typeText ""
          else schema.typeText "") ∧
      schema.nullableTypeText qualifier =
        schema.typeText qualifier ++ (if schema.nullable then " | null" else "") ∧
      ∀ other, SameType schema other →
        other.typeText qualifier = schema.typeText qualifier ∧
          (other.nullableTypeText qualifier = schema.nullableTypeText qualifier ↔
            other.nullable = schema.nullable) := by
  rw [← brackets_eq]
  refine ⟨typeText_eq schema "", typeText_eq schema qualifier, typeText_qualifier schema qualifier,
    marked_eq _ _, fun other h => ?_⟩
  exact ⟨typeText_of_sameType h qualifier, nullableTypeText_inj h qualifier⟩

/-- Rows of pets, where a row and a pet may be missing, but not all rows. -/
def rowsOfPets : Schema :=
  .array (.array (.reference "Pet" ⟨true, some "A pet"⟩) ⟨true, none⟩) ⟨false, none⟩

/-- Rows of pets, all of which may be missing together. -/
def fullRowsOfPets : Schema := .array (.array (.reference "Pet")) ⟨true, some "Rows"⟩

theorem typeText_qualified_rows :
    SameType rowsOfPets fullRowsOfPets ∧
      rowsOfPets.nullableTypeText "Models." = "Models.Pet[][]" ∧
      fullRowsOfPets.typeText "Models." = rowsOfPets.typeText "Models." ∧
      fullRowsOfPets.nullableTypeText "Models." ≠ rowsOfPets.nullableTypeText "Models." := by
  have hsame : SameType rowsOfPets fullRowsOfPets := .array (.array (.reference _ _ _) _ _) _ _
  obtain ⟨hplain, -, hqualifier, hmark, hother⟩ := typeText_qualified rowsOfPets "Models."
  have htext : rowsOfPets.nullableTypeText "Models." = "Models.Pet[][]" := by
    rw [hmark, hqualifier, hplain]
    rfl
  obtain ⟨htype, hnullable⟩ := hother fullRowsOfPets hsame
  exact ⟨hsame, htext, htype, fun h => absurd (hnullable.mp h) (by decide)⟩

end OpenApiClient.Schema
