import OpenApiGen.Proofs.EntityImports
import OpenApiGen.Proofs.PropertyPlaces
import OpenApiGen.Proofs.SegmentDecoding
import OpenApiGen.Proofs.TypeScopes

/-!
# The references that are spelled in the types of properties

A type follows arrays to any depth and spells the reference at the end. References are looked up,
and recorded for the imports of the file, one array deep.
-/

namespace OpenApiGen

namespace Schema

/-- The type of a schema spells this reference, inside of so many arrays. -/
inductive Spells : Schema → Nat → String → Prop
  | own {schema reference} (h : schema.reference = some reference) : Spells schema 0 reference
  | item {schema items depth reference} (hk : schema.kind = .array) (hl : schema.literals? = none)
      (hi : schema.items = some items) (h : Spells items depth reference) :
      Spells schema (depth + 1) reference

theorem names_typeExpr_of_reference {schema : Schema} {reference name : String}
    (hr : schema.reference = some reference) :
    schema.typeExpr.Names name ↔ Reference.displayName reference = name := by
  rw [typeExpr_of_reference hr]
  cases schema.isNullable with
  | false =>
    refine ⟨fun h => ?_, fun h => h ▸ .named⟩
    cases h
    rfl
  | true =>
    refine ⟨fun h => ?_, fun h => h ▸ .nullable .named⟩
    cases h with
    | nullable h =>
      cases h
      rfl

theorem names_typeExpr_of_array {schema : Schema} {name : String} (hk : schema.kind = .array) :
    schema.typeExpr.Names name ↔
      schema.literals? = none ∧ ∃ items, schema.items = some items ∧ items.typeExpr.Names name := by
  cases hl : schema.literals? with
  | some values =>
    rw [typeExpr_of_literals (reference_eq_none (by simp [hk])) hl]
    exact iff_of_false nofun (by simp)
  | none =>
    rw [typeExpr_of_array hl hk]
    constructor
    · intro h
      cases h with
      | item h =>
        cases hi : schema.items with
        | none =>
          rw [hi] at h
          cases h
        | some items =>
          rw [hi] at h
          exact ⟨rfl, items, rfl, h⟩
    · rintro ⟨-, items, hi, h⟩
      rw [hi]
      exact .item h

theorem Spells.names {schema : Schema} {depth : Nat} {reference : String}
    (h : schema.Spells depth reference) :
    schema.typeExpr.Names (Reference.displayName reference) := by
  induction h with
  | own hr => exact (names_typeExpr_of_reference hr).mpr rfl
  | item hk hl hi _ ih => exact (names_typeExpr_of_array hk).mpr ⟨hl, _, hi, ih⟩

theorem sizeOf_items_lt {schema items : Schema} (h : schema.items = some items) :
    sizeOf items < sizeOf schema := by
  cases schema
  cases h
  simp only [Schema.mk.sizeOf_spec, Option.some.sizeOf_spec]
  omega

/-- By recursion on the items: what is neither a reference nor an array has no name in its type. -/
theorem exists_spells (schema : Schema) {name : String} (h : schema.typeExpr.Names name) :
    ∃ depth reference, schema.Spells depth reference ∧ Reference.displayName reference = name := by
  cases hr : schema.reference with
  | some reference => exact ⟨0, reference, .own hr, (names_typeExpr_of_reference hr).mp h⟩
  | none =>
    have hk : schema.kind = .array := by
      by_contra hk
      exact not_names_typeExpr hr hk name h
    obtain ⟨hl, items, hi, hnames⟩ := (names_typeExpr_of_array hk).mp h
    have hlt := sizeOf_items_lt hi
    obtain ⟨depth, reference, hs, hname⟩ := exists_spells items hnames
    exact ⟨depth + 1, reference, .item hk hl hi hs, hname⟩
termination_by sizeOf schema

/-- The names in the type of a schema are those that the references spelled in it end in. -/
theorem names_typeExpr_iff {schema : Schema} {name : String} : schema.typeExpr.Names name ↔
    ∃ depth reference, schema.Spells depth reference ∧ Reference.displayName reference = name := by
  refine ⟨exists_spells schema, ?_⟩
  rintro ⟨depth, reference, hs, rfl⟩
  exact hs.names

/-- The first reference to be looked up is the one that is spelled, unless it is too deep. -/
theorem Spells.head?_lookedUp {schema : Schema} {depth : Nat} {reference : String}
    (h : schema.Spells depth reference) (hd : depth ≤ 1) :
    schema.lookedUp.head? = some reference := by
  cases h with
  | own hr => simp [lookedUp, hr]
  | item hk hl hi h =>
    cases h with
    | own hr =>
      have hown : schema.reference = none := reference_eq_none (by simp [hk])
      simp [lookedUp, element?, hown, hk, hi, hr]
    | item => omega

end Schema

namespace EntityFile

variable {options : EntityOptions} {entity : Entity} {schemaName : String}

theorem referenceImport_inj {form : ExportForm} {schemaName' : String} :
    referenceImport form schemaName = referenceImport form schemaName' ↔
      schemaName = schemaName' := by
  refine ⟨fun h => ?_, fun h => h ▸ rfl⟩
  have hclause := congrArg Import.clause h
  cases form with
  | named => exact (ImportClause.renamed.inj hclause).2
  | default => exact ImportClause.default.inj hclause

/-- The schemas that an entity file imports: the other entities that its properties mention. -/
theorem referenceImport_mem_imports_iff :
    referenceImport options.exportForm schemaName ∈ (ofEntity options entity).imports ↔
      schemaName ≠ entity.schemaName ∧ isEntityName schemaName ∧
        ∃ p ∈ entity.properties, p.Mentions schemaName := by
  have hmem : schemaName ∈ (allReferences [] entity.properties).filter (· != entity.schemaName) ↔
      schemaName ≠ entity.schemaName ∧ isEntityName schemaName ∧
        ∃ p ∈ entity.properties, p.Mentions schemaName := by
    rw [List.mem_filter, mem_allReferences_nil_iff, bne_iff_ne, and_comm]
  rw [← hmem]
  constructor
  · intro h
    rcases List.mem_append.mp h with h | h
    · cases typeOnly_of_decoratorImports _ h
    · obtain ⟨other, hother, heq⟩ := List.mem_map.mp h
      rwa [← referenceImport_inj.mp heq]
  · intro h
    exact List.mem_append_right _ (List.mem_map_of_mem h)

theorem localAlias_eq_some_iff : (ofEntity options entity).localAlias = some entity.schemaName ↔
    isEntityName entity.schemaName ∧ ∃ p ∈ entity.properties, p.Mentions entity.schemaName := by
  rw [← mem_allReferences_nil_iff, ← List.contains_iff_mem]
  simp [ofEntity]

theorem imports_mem_source_iff {file : EntityFile} {i : Import} :
    .imports i ∈ file.source ↔ i ∈ file.imports := by
  rw [← Source.mem_imports_iff, imports_source]

/-- The one alias of a file is that of its entity, under the name of the schema. -/
theorem typeAlias_mem_source_iff {file : EntityFile} :
    .typeAlias schemaName (.named file.name) ∈ file.source ↔ file.localAlias = some schemaName := by
  unfold source
  cases file.localAlias <;> split <;> simp [eq_comm]

/-- The name that a reference ends in stands for its schema in a file: the schema is there, and
among the statements of the file the name is imported where it is that of another entity, and
declared where it is that of this one. -/
structure Binds (doc : Document) (entity : Entity) (file : EntityFile) (reference : String) :
    Prop where
  resolves : Entity.resolves doc reference
  imported : isEntityName (Reference.displayName reference) →
    Reference.displayName reference ≠ entity.schemaName →
    .imports (referenceImport file.exportForm (Reference.displayName reference)) ∈ file.source
  aliased : Reference.displayName reference = entity.schemaName →
    .typeAlias entity.schemaName (.named file.name) ∈ file.source

/-- Imports and aliases alike come from what is mentioned. -/
theorem binds_iff {doc : Document} {reference : String}
    (hself : isEntityName entity.schemaName) :
    Binds doc entity (ofEntity options entity) reference ↔
      Entity.resolves doc reference ∧ (isEntityName (Reference.displayName reference) →
        ∃ p ∈ entity.properties, p.Mentions (Reference.displayName reference)) := by
  constructor
  · intro h
    refine ⟨h.resolves, fun hname => ?_⟩
    by_cases heq : Reference.displayName reference = entity.schemaName
    · rw [heq]
      exact (localAlias_eq_some_iff.mp (typeAlias_mem_source_iff.mp (h.aliased heq))).2
    · have himport := imports_mem_source_iff.mp (h.imported hname heq)
      exact (referenceImport_mem_imports_iff.mp himport).2.2
  · rintro ⟨hresolves, hmentioned⟩
    refine ⟨hresolves, fun hname hne => ?_, fun heq => ?_⟩
    · apply imports_mem_source_iff.mpr
      exact referenceImport_mem_imports_iff.mpr ⟨hne, hname, hmentioned hname⟩
    · rw [heq] at hmentioned
      apply typeAlias_mem_source_iff.mpr
      exact localAlias_eq_some_iff.mpr ⟨hself, hmentioned hself⟩

end EntityFile

namespace Entity

variable {doc : Document} {entities : List Entity} {entity : Entity}

/-- One array deep, a reference is looked up, and recorded under the name that is displayed. -/
theorem mentions_of_spells {name place reference : String} {required : Bool} {schema : Schema}
    {p : EntityProperty} {depth : Nat}
    (h : (flattenProperty doc .error name place required schema).outcome = .ok p)
    (hs : schema.Spells depth reference) (hd : depth ≤ 1)
    (hmark : '#' ∉ Text.lastPiece '/' reference.toList) :
    resolves doc reference ∧ p.reference = some (Reference.displayName reference) := by
  have hhead := hs.head?_lookedUp hd
  have hall : ∀ other ∈ schema.lookedUp, resolves doc other := fun _ => resolves_of_lookedUp h
  have hresolves := hall reference (List.mem_of_head? hhead)
  refine ⟨hresolves, ?_⟩
  rw [(type_and_reference_of_resolves h hall).2, hhead, Option.bind_some]
  cases hname : Reference.componentName? reference .schemas with
  | none => simp [resolves, hname] at hresolves
  | some schemaName => rw [(Reference.displayName_eq_iff hname).mpr hmark]

/-- The names in the type of a property are those that the references spelled in it end in. Each of
them stands for its schema in what is written for the entity exactly if that schema is there and,
should it be an entity, a property mentions it. Up to one array deep this is so for every reference
whose last segment has no number sign in it. -/
theorem spelled_references_bound (h : (extract doc .error).outcome = .ok entities)
    (he : entity ∈ entities) {top p : EntityProperty} (htop : top ∈ entity.properties)
    (hw : EntityProperty.Within p top) (options : EntityOptions) :
    (EntityFile.ofEntity options entity).text =
      Source.text (EntityFile.ofEntity options entity).source ∧
    ∃ entry ∈ doc.components.schemas, entry.1 = entity.schemaName ∧ ∃ place schema,
      Schema.StandsAt entry.1 entry.2.properties place schema ∧ p.type = schema.typeExpr ∧
      (∀ name, p.type.Names name ↔ ∃ depth reference, schema.Spells depth reference ∧
        Reference.displayName reference = name) ∧
      ∀ depth reference, schema.Spells depth reference →
        (EntityFile.Binds doc entity (EntityFile.ofEntity options entity) reference ↔
          resolves doc reference ∧ (EntityFile.isEntityName (Reference.displayName reference) →
            ∃ top ∈ entity.properties, top.Mentions (Reference.displayName reference))) ∧
        (depth ≤ 1 → '#' ∉ Text.lastPiece '/' reference.toList →
          EntityFile.Binds doc entity (EntityFile.ofEntity options entity) reference) := by
  obtain ⟨entry, hentry, hname, place, name, required, schema, hstands, hflat⟩ :=
    exists_place h he htop hw
  have htype : p.type = schema.typeExpr :=
    (type_and_reference_of_resolves hflat fun _ => resolves_of_lookedUp hflat).1
  refine ⟨EntityFile.text_eq_source _, entry, hentry, hname, place, schema, hstands, htype,
    fun other => ?_, ?_⟩
  · rw [htype, Schema.names_typeExpr_iff]
  · intro depth reference hs
    have hiff : EntityFile.Binds doc entity (EntityFile.ofEntity options entity) reference ↔ _ :=
      EntityFile.binds_iff (isEntityName_schemaName h he)
    refine ⟨hiff, fun hd hmark => hiff.mpr ?_⟩
    obtain ⟨hresolves, hrecorded⟩ := mentions_of_spells hflat hs hd hmark
    refine ⟨hresolves, fun _ => ⟨top, htop, ?_⟩⟩
    exact EntityProperty.mentions_iff.mpr ⟨p, hw, hrecorded⟩

/-- An order refers to its user. -/
def orderOfUser : Document :=
  .ofKeys [] [("OrderEntity", Generation.referringSchema "user" "UserEntity"), ("UserEntity", {})]

theorem spelled_references_bound_orderOfUser :
    ∃ entities, (extract orderOfUser .error).outcome = .ok entities ∧
      ∃ entity ∈ entities, entity.schemaName = "OrderEntity" ∧ ∃ p ∈ entity.properties,
        EntityProperty.Within p p ∧ p.type.Names "UserEntity" ∧
        EntityFile.Binds orderOfUser entity (EntityFile.ofEntity {} entity)
          "#/components/schemas/UserEntity" := by
  have hextract : (extract orderOfUser .error).outcome.map
      (List.map fun entity => (entity.schemaName, entity.properties.length))
      = .ok [("OrderEntity", 1), ("UserEntity", 0)] := by
    decide +kernel
  obtain ⟨entities, h, entity, he, hentity⟩ :=
    exists_mem_of_map_eq_ok hextract (List.mem_cons_self ..)
  obtain ⟨hname, hlength⟩ := Prod.mk.inj hentity
  obtain ⟨p, hp⟩ := List.length_eq_one_iff.mp hlength
  have hmem : p ∈ entity.properties := hp ▸ List.mem_singleton.mpr rfl
  refine ⟨entities, h, entity, he, hname, p, hmem, .self, ?_⟩
  obtain ⟨-, entry, hentry, hkey, place, schema, hstands, -, hnames, hbound⟩ :=
    spelled_references_bound h he hmem .self {}
  have hfirst : entry = ("OrderEntity", Generation.referringSchema "user" "UserEntity") := by
    rw [hname] at hkey
    simpa [orderOfUser, Document.ofKeys, hkey, Prod.ext_iff] using hentry
  have hschema : schema = { reference := some "#/components/schemas/UserEntity" } := by
    rw [hfirst] at hstands
    have hplace := Schema.mem_places_of_standsAt hstands
    simpa [Generation.referringSchema, Schema.places, Schema.inside, Schema.kind] using
      congrArg Prod.snd (List.mem_singleton.mp hplace)
  have hspells : schema.Spells 0 "#/components/schemas/UserEntity" := .own (by rw [hschema])
  refine ⟨(hnames _).mpr ⟨0, _, hspells, by decide +kernel⟩, ?_⟩
  exact (hbound 0 _ hspells).2 (by decide) (by decide +kernel)

/-- Arrays of arrays of references to one schema. -/
def gridOf (schemaName : String) : Schema :=
  { type := some (.single "array")
    items := some {
      type := some (.single "array")
      items := some { reference := some ("#/components/schemas/" ++ schemaName) } } }

/-- An order refers to a schema that is not there, two arrays deep. -/
def gridDocument : Document :=
  .ofKeys [] [("OrderEntity", { properties := [("grid", gridOf "MissingEntity")] })]

/-- Although lost references are errors, the entity is extracted, and its property has the name of a
schema in its type that is neither there nor imported. -/
theorem deep_reference_unchecked :
    ∃ entities, (extract gridDocument .error).outcome = .ok entities ∧
      ∃ entity ∈ entities, entity.schemaName = "OrderEntity" ∧
        entity.properties.map (fun p => p.type.text 0) = ["MissingEntity[][]"] ∧
        Schema.StandsAt "OrderEntity" [("grid", gridOf "MissingEntity")] "OrderEntity.grid"
          (gridOf "MissingEntity") ∧
        (gridOf "MissingEntity").Spells 2 "#/components/schemas/MissingEntity" ∧
        ¬resolves gridDocument "#/components/schemas/MissingEntity" ∧
        ¬EntityFile.Binds gridDocument entity (EntityFile.ofEntity {} entity)
          "#/components/schemas/MissingEntity" := by
  have hextract : (extract gridDocument .error).outcome.map
      (List.map fun entity => (entity.schemaName, entity.properties.map fun p => p.type.text 0))
      = .ok [("OrderEntity", ["MissingEntity[][]"])] := by
    decide +kernel
  have hlost : ¬resolves gridDocument "#/components/schemas/MissingEntity" := by decide +kernel
  obtain ⟨entities, h, entity, he, hentity⟩ :=
    exists_mem_of_map_eq_ok hextract (List.mem_cons_self ..)
  obtain ⟨hname, htypes⟩ := Prod.mk.inj hentity
  have hspells : (gridOf "MissingEntity").Spells 2 "#/components/schemas/MissingEntity" :=
    .item (by decide) rfl rfl (.item (by decide) rfl rfl (.own (by decide)))
  exact ⟨entities, h, entity, he, hname, htypes, .here (List.mem_singleton.mpr rfl), hspells, hlost,
    fun hbinds => hlost hbinds.resolves⟩

end Entity
end OpenApiGen
