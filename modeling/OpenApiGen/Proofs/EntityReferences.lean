import OpenApiGen.EntityFile
import OpenApiGen.Proofs.ExtractedItems

/-! # The schemas that the properties of an entity refer to -/

namespace OpenApiGen

/-- The property, or one that is nested in it, refers to this schema. -/
inductive EntityProperty.Mentions : EntityProperty → String → Prop
  | own {p schemaName} (h : p.reference = some schemaName) : Mentions p schemaName
  | nested {p q schemaName} (hq : q ∈ p.nested) (h : Mentions q schemaName) : Mentions p schemaName

namespace EntityFile

variable {schemaName : String}

theorem of_mem_addReference {found : List String} {reference : String}
    (h : schemaName ∈ addReference found reference) :
    schemaName ∈ found ∨ isEntityName schemaName ∧ schemaName = reference := by
  unfold addReference at h
  split at h
  · rename_i hnew
    rw [Bool.and_eq_true] at hnew
    rcases List.mem_append.mp h with h | h
    · exact .inl h
    · cases List.mem_singleton.mp h
      exact .inr ⟨hnew.1, rfl⟩
  · exact .inl h

mutual

theorem of_mem_references : (p : EntityProperty) → (found : List String) →
    schemaName ∈ references found p →
    schemaName ∈ found ∨ isEntityName schemaName ∧ p.Mentions schemaName
  | { nested := nested, reference := reference, .. }, found, h => by
    rw [references] at h
    rcases of_mem_allReferences nested _ h with h | ⟨hname, q, hq, hmentions⟩
    · cases reference with
      | none => exact .inl h
      | some reference =>
        rcases of_mem_addReference h with h | ⟨hname, rfl⟩
        · exact .inl h
        · exact .inr ⟨hname, .own rfl⟩
    · exact .inr ⟨hname, .nested hq hmentions⟩

/-- What is found in properties was found before, or one of them refers to it. -/
theorem of_mem_allReferences : (ps : List EntityProperty) → (found : List String) →
    schemaName ∈ allReferences found ps →
    schemaName ∈ found ∨ isEntityName schemaName ∧ ∃ p ∈ ps, p.Mentions schemaName
  | [], found, h => .inl h
  | p :: rest, found, h => by
    rw [allReferences] at h
    rcases of_mem_allReferences rest _ h with h | ⟨hname, q, hq, hmentions⟩
    · rcases of_mem_references p found h with h | ⟨hname, hmentions⟩
      · exact .inl h
      · exact .inr ⟨hname, p, List.mem_cons_self .., hmentions⟩
    · exact .inr ⟨hname, q, List.mem_cons_of_mem _ hq, hmentions⟩

end

theorem mem_addReference {found : List String} {reference : String}
    (h : schemaName ∈ found ∨ isEntityName schemaName ∧ schemaName = reference) :
    schemaName ∈ addReference found reference := by
  unfold addReference
  split
  · rcases h with h | ⟨-, rfl⟩
    · exact List.mem_append_left _ h
    · exact List.mem_append_right _ (List.mem_singleton.mpr rfl)
  · rename_i hold
    rcases h with h | ⟨hname, rfl⟩
    · exact h
    · simpa [hname] using hold

mutual

theorem mem_references : (p : EntityProperty) → (found : List String) →
    schemaName ∈ found ∨ isEntityName schemaName ∧ p.Mentions schemaName →
    schemaName ∈ references found p
  | { nested := nested, reference := reference, .. }, found, h => by
    rw [references]
    refine mem_allReferences nested _ ?_
    rcases h with h | ⟨hname, hmentions⟩
    · cases reference with
      | none => exact .inl h
      | some reference => exact .inl (mem_addReference (.inl h))
    · cases hmentions with
      | own hr =>
        cases hr
        exact .inl (mem_addReference (.inr ⟨hname, rfl⟩))
      | nested hq hmentions => exact .inr ⟨hname, _, hq, hmentions⟩

theorem mem_allReferences : (ps : List EntityProperty) → (found : List String) →
    (schemaName ∈ found ∨ isEntityName schemaName ∧ ∃ p ∈ ps, p.Mentions schemaName) →
    schemaName ∈ allReferences found ps
  | [], found, h => by
    rcases h with h | ⟨-, p, hp, -⟩
    · exact h
    · cases hp
  | p :: rest, found, h => by
    rw [allReferences]
    refine mem_allReferences rest _ ?_
    rcases h with h | ⟨hname, q, hq, hmentions⟩
    · exact .inl (mem_references p found (.inl h))
    · rcases List.mem_cons.mp hq with hfirst | hq
      · exact .inl (mem_references p found (.inr ⟨hname, hfirst ▸ hmentions⟩))
      · exact .inr ⟨hname, q, hq, hmentions⟩

end

theorem mem_allReferences_nil_iff {ps : List EntityProperty} :
    schemaName ∈ allReferences [] ps ↔
      isEntityName schemaName ∧ ∃ p ∈ ps, p.Mentions schemaName := by
  refine ⟨fun h => ?_, fun h => mem_allReferences ps [] (.inr h)⟩
  exact (of_mem_allReferences ps [] h).resolve_left (by simp)

end EntityFile

namespace Entity

variable {doc : Document} {policy : ReferencePolicy}

/-- Where it is known at all, the schema that is referred to is declared. -/
def Declared (doc : Document) (reference : Option String) : Prop :=
  ∀ schemaName, reference = some schemaName →
    schemaName ∈ KeyedList.keys doc.components.schemas

theorem declared_of_resolves {reference : String} (h : resolves doc reference) :
    Declared doc (Reference.componentName? reference .schemas) := by
  intro schemaName hname
  rw [resolves, hname, Option.bind_some, Document.schema?, Option.isSome_iff_ne_none, ne_eq,
    KeyedList.find?_eq_none_iff, not_not] at h
  exact h

theorem declared_of_followReference {context : String} {otherwise : TypeExpr}
    {reference : Option String} {current found : TypeExpr × Option String}
    (h : (followReference doc policy context otherwise reference current).outcome = .ok found)
    (hc : Declared doc current.2) : Declared doc found.2 := by
  unfold followReference at h
  cases reference with
  | none =>
    cases h
    exact hc
  | some reference =>
    simp only [Attempt.outcome_bind, bind_eq_ok_iff] at h
    obtain ⟨leads, hcheck, h⟩ := h
    cases leads with
    | false =>
      cases h
      exact hc
    | true =>
      cases h
      unfold checkReference at hcheck
      split at hcheck
      · rename_i hr
        exact declared_of_resolves hr
      · cases policy <;> cases hcheck

mutual

theorem declared_of_flattenProperty {schemaName : String} : (schema : Schema) →
    {name context : String} → {required : Bool} → {p : EntityProperty} →
    (flattenProperty doc policy name context required schema).outcome = .ok p →
    p.Mentions schemaName → schemaName ∈ KeyedList.keys doc.components.schemas
  | schema@{ properties := properties, items := items, required := names, .. },
    name, context, required, p, h, hm => by
    rw [flattenProperty] at h
    simp only [Attempt.outcome_bind, bind_eq_ok_iff] at h
    obtain ⟨first, hfirst, found, hfound, h⟩ := h
    have hdeclared : Declared doc found.2 :=
      declared_of_followReference hfound (declared_of_followReference hfirst nofun)
    have hp : p.reference = found.2 ∧ ∀ q ∈ p.nested, q.Mentions schemaName →
        schemaName ∈ KeyedList.keys doc.components.schemas := by
      -- nested are the properties of the items of an array, or those of the object itself
      split at h
      · simp only [Attempt.outcome_bind, bind_eq_ok_iff] at h
        obtain ⟨nested, hnested, h⟩ := h
        cases h
        exact ⟨rfl, fun q => declared_of_flattenItems items hnested⟩
      · split at h
        · simp only [Attempt.outcome_bind, bind_eq_ok_iff] at h
          obtain ⟨nested, hnested, h⟩ := h
          cases h
          exact ⟨rfl, fun q => declared_of_flattenAll properties hnested⟩
        · cases h
          exact ⟨rfl, by simp⟩
    cases hm with
    | own hr => exact hdeclared schemaName (hp.1.symm.trans hr)
    | nested hq hm => exact hp.2 _ hq hm

theorem declared_of_flattenItems {schemaName : String} : (items : Option Schema) →
    {context : String} → {ps : List EntityProperty} →
    (flattenItems doc policy context items).outcome = .ok ps → {p : EntityProperty} → p ∈ ps →
    p.Mentions schemaName → schemaName ∈ KeyedList.keys doc.components.schemas
  | none, context, ps, h, p, hp, hm => by
    rw [flattenItems] at h
    cases h
    cases hp
  | some schema@{ properties := properties, required := names, .. }, context, ps, h, p, hp, hm => by
    rw [flattenItems] at h
    split at h
    · exact declared_of_flattenAll properties h hp hm
    · cases h
      cases hp

/-- The properties of an entity refer to schemas of the document alone. -/
theorem declared_of_flattenAll {schemaName : String} : (properties : List (String × Schema)) →
    {owner : String} → {required : List String} → {ps : List EntityProperty} →
    (flattenAll doc policy owner required properties).outcome = .ok ps →
    {p : EntityProperty} → p ∈ ps → p.Mentions schemaName →
    schemaName ∈ KeyedList.keys doc.components.schemas
  | [], owner, required, ps, h, p, hp, hm => by
    rw [flattenAll] at h
    cases h
    cases hp
  | (name, schema) :: rest, owner, required, ps, h, p, hp, hm => by
    rw [flattenAll] at h
    simp only [Attempt.outcome_bind, bind_eq_ok_iff, Attempt.outcome_pure] at h
    obtain ⟨first, hfirst, others, hothers, h⟩ := h
    cases h
    rcases List.mem_cons.mp hp with rfl | hp
    · exact declared_of_flattenProperty schema hfirst hm
    · exact declared_of_flattenAll rest hothers hp hm

end

theorem declared_of_ofSchemas {schemas : List (String × Schema)} {entities : List Entity}
    (h : (ofSchemas doc policy schemas).outcome = .ok entities) :
    ∀ entity ∈ entities, ∀ p ∈ entity.properties, ∀ schemaName, p.Mentions schemaName →
      schemaName ∈ KeyedList.keys doc.components.schemas := by
  induction schemas generalizing entities with
  | nil =>
    cases h
    simp
  | cons entry schemas ih =>
    obtain ⟨schemaName, schema⟩ := entry
    rw [ofSchemas] at h
    split at h
    · exact ih h
    · split at h
      · cases h
      · simp only [Attempt.outcome_bind, bind_eq_ok_iff, Attempt.outcome_pure] at h
        obtain ⟨properties, hproperties, rest, hrest, h⟩ := h
        cases h
        refine List.forall_mem_cons.mpr ⟨fun p hp other hm => ?_, ih hrest⟩
        exact declared_of_flattenAll schema.properties hproperties hp hm

/-- What the file of an entity refers to as an entity is one. -/
theorem exists_referenced {entities : List Entity}
    (h : (extract doc policy).outcome = .ok entities) {entity : Entity} (he : entity ∈ entities)
    {schemaName : String} (hr : schemaName ∈ EntityFile.allReferences [] entity.properties) :
    ∃ referenced ∈ entities, referenced.schemaName = schemaName := by
  have hnames := schemaNames_of_extract h
  unfold extract at h
  simp only [Attempt.outcome_bind, Attempt.outcome_report, bind_eq_ok_iff] at h
  obtain ⟨found, hfound, -, -, h⟩ := h
  cases h
  rcases EntityFile.of_mem_allReferences _ _ hr with hr | ⟨hname, p, hp, hm⟩
  · cases hr
  · have hdeclared := declared_of_ofSchemas hfound entity he p hp schemaName hm
    have hsuffix : (stripSuffix? schemaName).isSome := by
      unfold EntityFile.isEntityName at hname
      cases hs : stripSuffix? schemaName with
      | none => simp [hs] at hname
      | some name => rfl
    have hmem : schemaName ∈ entities.map Entity.schemaName := by
      rw [hnames, List.mem_filter]
      exact ⟨hdeclared, hsuffix⟩
    exact List.mem_map.mp hmem

end Entity
end OpenApiGen
