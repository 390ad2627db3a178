import OpenApiGen.Proofs.InferredTypes
import OpenApiGen.Proofs.ReferencePolicies

/-!
# One schema as a parameter and as a property

Where its references lead to schemas, a schema gives a property, of the same type and element kind as
the parameter that it gives. Of the items of a schema that is no array only the parameter knows.
-/

namespace OpenApiGen

namespace Schema

/-- Items of a schema that is no array make no difference if they have no literals, or come behind
those of the schema. -/
theorem literals_of_element_eq_iff (schema : Schema) :
    (schema.literals? <|> schema.element?.bind literals?).getD [] =
        (schema.literals? <|> schema.items.bind literals?).getD [] ↔
      schema.kind = .array ∨ schema.literals? ≠ none ∨ schema.items.bind literals? = none := by
  by_cases ha : schema.kind = .array
  · simp [ha, element?_of_array ha]
  · rw [element?_of_ne_array ha]
    cases hl : schema.literals? with
    | some values => simp
    | none =>
      cases hi : schema.items.bind literals? with
      | none => simp
      | some values =>
        obtain ⟨items, -, hvalues⟩ := Option.bind_eq_some_iff.mp hi
        simpa [ha, eq_comm] using ne_nil_of_literals hvalues

end Schema

namespace Parameter

/-- The kind of a value, or of each element of an array. -/
def elementKind (parameter : Parameter) : SchemaKind :=
  if parameter.kind = .array then parameter.itemKind.getD .unknown else parameter.kind

end Parameter

namespace Entity

variable {doc : Document} {policy : ReferencePolicy} {name place : String} {required : Bool}
  {schema : Schema}

/-- What is recorded of a property besides its references and what is nested in it. -/
theorem recorded_of_flattenProperty {p : EntityProperty}
    (h : (flattenProperty doc policy name place required schema).outcome = .ok p) :
    p = recordProperty name required schema (p.type, p.reference) p.nested := by
  rw [flattenProperty_eq] at h
  simp only [Attempt.outcome_bind, bind_eq_ok_iff, Attempt.outcome_pure] at h
  obtain ⟨found, -, nested, -, h⟩ := h
  cases h
  rfl

variable (policy name required)

theorem exists_eq_ok_flattenProperty
    (hall : ∀ inner ∈ (place, schema) :: schema.inside place,
      ∀ reference ∈ inner.2.lookedUp, resolves doc reference) :
    ∃ p, (flattenProperty doc policy name place required schema).outcome = .ok p := by
  have hinside : (schema.inside place).flatMap (propertyErrors doc policy) = [] := by
    rw [List.flatMap_eq_nil_iff]
    intro inner hi
    exact propertyErrors_eq_nil (hall inner (List.mem_cons_of_mem _ hi))
  have hown : propertyErrors doc policy (place, schema) = [] :=
    propertyErrors_eq_nil (hall _ (List.mem_cons_self ..))
  have hends : EndsAt (propertyErrors doc policy (place, schema)
      ++ (schema.inside place).flatMap (propertyErrors doc policy))
      (flattenProperty doc policy name place required schema).outcome :=
    endsAt_flattenProperty schema name place required
  rw [hown, hinside] at hends
  exact hends.exists_eq_ok

/-- A property has the type and the element kind of the parameter with its schema. They have the same
literals unless these stand with the items of a schema that is no array and has none of its own, and
the parameter has a kind for its items only as an array unless such a schema has items. -/
theorem property_and_parameter_of_schema {entry : ParameterEntry} (hs : entry.schema = some schema)
    (hk : schema.kind ≠ .unknown)
    (hall : ∀ inner ∈ (place, schema) :: schema.inside place,
      ∀ reference ∈ inner.2.lookedUp, resolves doc reference) :
    ∃ p, (flattenProperty doc policy name place required schema).outcome = .ok p ∧
      p.type = (Parameter.ofEntry entry).type ∧
      p.baseKind = (Parameter.ofEntry entry).elementKind ∧
      (p.literals = (Parameter.ofEntry entry).literals ↔
        schema.kind = .array ∨ schema.literals? ≠ none ∨
          schema.items.bind Schema.literals? = none) ∧
      (((Parameter.ofEntry entry).itemKind ≠ none → (Parameter.ofEntry entry).kind = .array) ↔
        schema.kind = .array ∨ schema.items = none) := by
  obtain ⟨p, hp⟩ := exists_eq_ok_flattenProperty policy name required hall
  obtain ⟨htype, -⟩ := type_and_reference_of_resolves hp (hall _ (List.mem_cons_self ..))
  have hrecord := recorded_of_flattenProperty hp
  rw [Parameter.ofEntry_of_schema hs hk]
  refine ⟨p, hp, htype, ?_, ?_, ?_⟩
  · rw [hrecord, Parameter.elementKind]
    by_cases ha : schema.kind = .array
    · simp [recordProperty, ha, Schema.element?_of_array ha]
    · simp [recordProperty, ha]
  · rw [hrecord]
    exact Schema.literals_of_element_eq_iff schema
  · cases schema.items <;> simp

/-- The users of an order, which are stored elsewhere. -/
def usersSchema : Schema where
  type := some (.single "array")
  items := some { reference := some "#/components/schemas/UserEntity" }

/-- A label, whose letters were meant to be listed. -/
def labelSchema : Schema where
  type := some (.single "string")
  items := some { type := some (.single "string"), enumeration := some [.string "a"] }

def sharedDocument : Document :=
  .ofKeys [] [("OrderEntity", { properties := [("users", usersSchema), ("label", labelSchema)] }),
    ("UserEntity", {})]

def entryOf (name : String) (schema : Schema) : ParameterEntry :=
  ⟨name, .query, none, some schema, none⟩

theorem property_and_parameter_of_schema_users :
    (∀ inner ∈ ("OrderEntity.users", usersSchema) :: usersSchema.inside "OrderEntity.users",
      ∀ reference ∈ inner.2.lookedUp, resolves sharedDocument reference) ∧
      ∃ p, (flattenProperty sharedDocument .error "users" "OrderEntity.users" false
          usersSchema).outcome = .ok p ∧
        p.type = (Parameter.ofEntry (entryOf "users" usersSchema)).type ∧
        p.baseKind = .reference ∧
        p.literals = (Parameter.ofEntry (entryOf "users" usersSchema)).literals := by
  have hall : ∀ inner ∈ ("OrderEntity.users", usersSchema) :: usersSchema.inside "OrderEntity.users",
      ∀ reference ∈ inner.2.lookedUp, resolves sharedDocument reference := by
    decide +kernel
  have hentry : (entryOf "users" usersSchema).schema = some usersSchema := rfl
  obtain ⟨p, hp, htype, hkind, hliterals, -⟩ :=
    property_and_parameter_of_schema .error "users" false hentry (by decide) hall
  exact ⟨hall, p, hp, htype, hkind, hliterals.mpr (.inl rfl)⟩

/-- The parameter is one of the letters, and the property any text. -/
theorem items_of_text_differ :
    ∃ p, (flattenProperty sharedDocument .error "label" "OrderEntity.label" false
        labelSchema).outcome = .ok p ∧
      p.literals = [] ∧ (Parameter.ofEntry (entryOf "label" labelSchema)).literals = [.string "a"] ∧
      (Parameter.ofEntry (entryOf "label" labelSchema)).kind = .string ∧
      (Parameter.ofEntry (entryOf "label" labelSchema)).itemKind = some .string := by
  refine ⟨recordProperty "label" false labelSchema (.string, none) [], ?_, rfl, rfl, rfl, rfl⟩
  rw [flattenProperty_eq]
  rfl

end Entity
end OpenApiGen
