import OpenApiGen.Proofs.BodyFlattening
import OpenApiGen.Proofs.DocumentErrors
import OpenApiGen.Proofs.EntityReferences

/-!
# Where the properties of an entity stand

Every property of an entity, at any depth, is what the schema at one place of the document comes to.
-/

namespace OpenApiGen

/-- The property itself, or one that is nested in it at any depth. -/
inductive EntityProperty.Within : EntityProperty → EntityProperty → Prop
  | self {p} : Within p p
  | nested {part p q} (hq : q ∈ p.nested) (h : Within part q) : Within part p

theorem EntityProperty.mentions_iff {p : EntityProperty} {schemaName : String} :
    p.Mentions schemaName ↔ ∃ part, Within part p ∧ part.reference = some schemaName := by
  constructor
  · intro h
    induction h with
    | own hr => exact ⟨_, .self, hr⟩
    | nested hq _ ih =>
      obtain ⟨part, hw, hr⟩ := ih
      exact ⟨part, .nested hq hw, hr⟩
  · rintro ⟨part, hw, hr⟩
    induction hw with
    | self => exact .own hr
    | nested hq _ ih => exact .nested hq ih

namespace Entity

variable {doc : Document} {policy : ReferencePolicy}

/-- The properties of an entity come from those of its schema, one from each. -/
theorem exists_of_mem_flattenAll {owner : String} {required : List String}
    {properties : List (String × Schema)} {ps : List EntityProperty}
    (h : (flattenAll doc policy owner required properties).outcome = .ok ps)
    {p : EntityProperty} (hp : p ∈ ps) : ∃ name schema, (name, schema) ∈ properties ∧
      (flattenProperty doc policy name (owner ++ "." ++ name) (required.contains name)
        schema).outcome = .ok p := by
  induction properties generalizing ps with
  | nil =>
    rw [flattenAll] at h
    cases h
    cases hp
  | cons entry properties ih =>
    obtain ⟨name, schema⟩ := entry
    rw [flattenAll] at h
    simp only [Attempt.outcome_bind, bind_eq_ok_iff, Attempt.outcome_pure] at h
    obtain ⟨first, hfirst, rest, hrest, h⟩ := h
    cases h
    rcases List.mem_cons.mp hp with rfl | hp
    · exact ⟨name, schema, List.mem_cons_self .., hfirst⟩
    · obtain ⟨other, inner, hmem, hinner⟩ := ih hrest hp
      exact ⟨other, inner, List.mem_cons_of_mem _ hmem, hinner⟩

/-- What is nested in a property comes from the object, or the items, that the property is of. -/
theorem exists_of_mem_nested {name owner : String} {required : Bool} {schema : Schema}
    {p q : EntityProperty}
    (h : (flattenProperty doc policy name owner required schema).outcome = .ok p)
    (hq : q ∈ p.nested) : ∃ object : Schema, object.kind = .object ∧
      (object = schema ∨ schema.kind = .array ∧ schema.items = some object) ∧
      ∃ inner property, (inner, property) ∈ object.properties ∧
        (flattenProperty doc policy inner (owner ++ "." ++ inner) (object.requires inner)
          property).outcome = .ok q := by
  rw [flattenProperty_eq] at h
  simp only [Attempt.outcome_bind, bind_eq_ok_iff, Attempt.outcome_pure] at h
  obtain ⟨found, -, nested, hnested, h⟩ := h
  cases h
  replace hq : q ∈ nested := hq
  rw [flattenNested] at hnested
  split at hnested
  · rename_i ha
    cases hi : schema.items with
    | none =>
      rw [hi, flattenItems] at hnested
      cases hnested
      cases hq
    | some items =>
      rw [hi, flattenItems_some] at hnested
      split at hnested
      · rename_i ho
        exact ⟨items, ho, .inr ⟨ha, rfl⟩, exists_of_mem_flattenAll hnested hq⟩
      · cases hnested
        cases hq
  · split at hnested
    · rename_i ho
      exact ⟨schema, ho, .inl rfl, exists_of_mem_flattenAll hnested hq⟩
    · cases hnested
      cases hq

theorem standsAt_of_within {part p : EntityProperty} (hw : EntityProperty.Within part p) :
    ∀ {owner name : String} {required : Bool} {schema : Schema}
      {properties : List (String × Schema)}, (name, schema) ∈ properties →
      (flattenProperty doc policy name (owner ++ "." ++ name) required schema).outcome = .ok p →
      ∃ place inner own property, Schema.StandsAt owner properties place property ∧
        (flattenProperty doc policy inner place own property).outcome = .ok part := by
  induction hw with
  | self =>
    intro owner name required schema properties hmem h
    exact ⟨_, _, _, _, .here hmem, h⟩
  | nested hq _ ih =>
    intro owner name required schema properties hmem h
    obtain ⟨object, ho, hobject, inner, property, hinner, hflat⟩ := exists_of_mem_nested h hq
    obtain ⟨place, last, own, reached, hstands, hreached⟩ := ih hinner hflat
    refine ⟨place, last, own, reached, ?_, hreached⟩
    rcases hobject with rfl | ⟨ha, hitems⟩
    · exact .inObject hmem ho hstands
    · exact .inItems hmem ha hitems ho hstands

theorem exists_of_mem_ofSchemas {schemas : List (String × Schema)} {entities : List Entity}
    (h : (ofSchemas doc policy schemas).outcome = .ok entities) {entity : Entity}
    (he : entity ∈ entities) : ∃ entry ∈ schemas, entry.1 = entity.schemaName ∧
      (flattenSchema doc policy entry.1 entry.2).outcome = .ok entity.properties := by
  induction schemas generalizing entities with
  | nil =>
    cases h
    cases he
  | cons entry schemas ih =>
    obtain ⟨schemaName, schema⟩ := entry
    rw [ofSchemas] at h
    split at h
    · obtain ⟨entry, hmem, hentry⟩ := ih h he
      exact ⟨entry, List.mem_cons_of_mem _ hmem, hentry⟩
    · split at h
      · cases h
      · simp only [Attempt.outcome_bind, bind_eq_ok_iff, Attempt.outcome_pure] at h
        obtain ⟨properties, hproperties, rest, hrest, h⟩ := h
        cases h
        rcases List.mem_cons.mp he with rfl | he
        · exact ⟨_, List.mem_cons_self .., rfl, hproperties⟩
        · obtain ⟨entry, hmem, hentry⟩ := ih hrest he
          exact ⟨entry, List.mem_cons_of_mem _ hmem, hentry⟩

/-- A property within one of an entity stands at a place in the schema of the entity, and is what
the schema at this place comes to. -/
theorem exists_place {entities : List Entity}
    (h : (extract doc policy).outcome = .ok entities) {entity : Entity} (he : entity ∈ entities)
    {part p : EntityProperty} (hp : p ∈ entity.properties) (hw : EntityProperty.Within part p) :
    ∃ entry ∈ doc.components.schemas, entry.1 = entity.schemaName ∧
      ∃ place name required schema, Schema.StandsAt entry.1 entry.2.properties place schema ∧
        (flattenProperty doc policy name place required schema).outcome = .ok part := by
  unfold extract at h
  simp only [Attempt.outcome_bind, Attempt.outcome_report, bind_eq_ok_iff] at h
  obtain ⟨found, hfound, -, -, h⟩ := h
  cases h
  obtain ⟨entry, hentry, hname, hproperties⟩ := exists_of_mem_ofSchemas hfound he
  obtain ⟨name, schema, hmem, hflat⟩ := exists_of_mem_flattenAll hproperties hp
  exact ⟨entry, hentry, hname, standsAt_of_within hw hmem hflat⟩

theorem suffix_not_mem_keys {entities : List Entity}
    (h : (extract doc policy).outcome = .ok entities) :
    suffix ∉ KeyedList.keys doc.components.schemas := by
  intro hkey
  have hnone : errors doc policy = [] := (endsAt_extract doc policy).eq_nil h
  have hmem : Failure.invalid ("components.schemas." ++ suffix) .emptyEntityName ∈
      errors doc policy := mem_errors_iff.mpr (.inl ⟨hkey, rfl⟩)
  rw [hnone] at hmem
  cases hmem

theorem name_ne_empty {entities : List Entity} (h : (extract doc policy).outcome = .ok entities)
    {entity : Entity} (he : entity ∈ entities) : entity.name ≠ "" := by
  intro hempty
  obtain ⟨hkey, hname⟩ := of_extract h entity he
  rw [hempty, stripSuffix?_eq_empty_iff] at hname
  rw [hname] at hkey
  exact suffix_not_mem_keys h hkey

theorem isEntityName_schemaName {entities : List Entity}
    (h : (extract doc policy).outcome = .ok entities) {entity : Entity} (he : entity ∈ entities) :
    EntityFile.isEntityName entity.schemaName := by
  rw [EntityFile.isEntityName, (of_extract h entity he).2, Option.any_some]
  simpa using name_ne_empty h he

/-! ## Properties whose references all lead to schemas -/

section Resolved

variable {name place : String} {required : Bool} {schema : Schema} {p : EntityProperty}

/-- Where lost references are errors, there are none. -/
theorem resolves_of_lookedUp
    (h : (flattenProperty doc .error name place required schema).outcome = .ok p)
    {reference : String} (hr : reference ∈ schema.lookedUp) : resolves doc reference := by
  have hnone := (endsAt_flattenProperty schema name place required).eq_nil h
  by_contra hlost
  have hmem : Failure.unresolvedReference reference place ∈
      propertyErrors doc .error (place, schema) :=
    mem_referenceErrors_iff.mpr ⟨rfl, reference, hr, hlost, rfl⟩
  rw [(List.append_eq_nil_iff.mp hnone).1] at hmem
  cases hmem

theorem outcome_followReference {otherwise : TypeExpr} {reference : Option String}
    {current : TypeExpr × Option String} (h : ∀ r ∈ reference, resolves doc r) :
    (followReference doc policy place otherwise reference current).outcome =
      .ok (current.1, (reference.elim current.2 (Reference.componentName? · .schemas))) := by
  cases reference with
  | none => rfl
  | some reference =>
    have hcheck : checkReference doc policy place reference = return true := by
      unfold checkReference
      rw [if_pos (h reference rfl)]
    rw [followReference, hcheck]
    rfl

/-- The type is that of the schema, and the name is that of the reference that is looked up. -/
theorem type_and_reference_of_resolves
    (h : (flattenProperty doc policy name place required schema).outcome = .ok p)
    (hall : ∀ reference ∈ schema.lookedUp, resolves doc reference) :
    p.type = schema.typeExpr ∧
      p.reference = schema.lookedUp.head?.bind (Reference.componentName? · .schemas) := by
  rw [flattenProperty_eq, followAll] at h
  simp only [Attempt.outcome_bind, bind_eq_ok_iff, Attempt.outcome_pure] at h
  obtain ⟨found, ⟨first, hfirst, hfound⟩, nested, -, h⟩ := h
  cases h
  simp only [Schema.lookedUp, List.mem_append, Option.mem_toList] at hall
  rw [outcome_followReference fun r hr => hall r (.inl hr)] at hfirst
  rw [outcome_followReference fun r hr => hall r (.inr hr)] at hfound
  cases hfirst
  cases hfound
  refine ⟨rfl, ?_⟩
  rw [Schema.lookedUp]
  cases hr : schema.reference with
  | none => cases schema.element?.bind Schema.reference <;> rfl
  | some reference =>
    -- a reference is no array, so that it has no element
    have hnone : schema.element? = none :=
      Schema.element?_of_ne_array (by simp [Schema.kind_of_reference hr])
    simp [recordProperty, hnone]

end Resolved

end Entity
end OpenApiGen
