import OpenApiGen.Proofs.ReferencePolicies
import OpenApiGen.Proofs.SpelledReferences

/-!
# The name of a reference, recorded and spelled

A property records the name that its reference leads to, and the file of the entity imports this
one. Its type spells the name that is displayed for the reference, which is the same unless the last
segment has a number sign in it.
-/

namespace OpenApiGen

/-- The reference that is looked up is the one in the type, which an array with an enumeration does
not have. -/
theorem Schema.names_typeExpr_of_lookedUp {schema : Schema} {reference spelled : String}
    (h : reference ∈ schema.lookedUp) :
    schema.typeExpr.Names spelled ↔
      (schema.kind = .array → schema.literals? = none) ∧
        Reference.displayName reference = spelled := by
  rw [lookedUp, List.mem_append, Option.mem_toList, Option.mem_toList] at h
  rcases h with h | h
  · have hkind : schema.kind ≠ .array := by simp [kind_of_reference h]
    rw [names_typeExpr_of_reference h]
    exact ⟨fun hname => ⟨fun hk => absurd hk hkind, hname⟩, And.right⟩
  · obtain ⟨items, hitems, hreference⟩ := Option.bind_eq_some_iff.mp h
    have hkind : schema.kind = .array := by
      by_contra hk
      rw [element?_of_ne_array hk] at hitems
      cases hitems
    rw [element?_of_array hkind] at hitems
    rw [names_typeExpr_of_array hkind, hitems]
    simp [hkind, names_typeExpr_of_reference hreference]

namespace Entity

variable {doc : Document} {policy : ReferencePolicy} {entities : List Entity} {entity : Entity}

/-- Where a name is recorded, the reference that it comes from leads to a schema. -/
theorem exists_reference_of_recorded {name place schemaName : String} {required : Bool}
    {schema : Schema} {p : EntityProperty}
    (h : (flattenProperty doc policy name place required schema).outcome = .ok p)
    (hr : p.reference = some schemaName) :
    ∃ reference ∈ schema.lookedUp, resolves doc reference ∧
      Reference.componentName? reference .schemas = some schemaName ∧ p.type = schema.typeExpr := by
  rcases type_and_reference_of_flattenProperty h with
    ⟨hall, htype, hrecorded⟩ | ⟨-, -, -, hnone, -⟩
  · rw [hr, eq_comm, Option.bind_eq_some_iff] at hrecorded
    obtain ⟨reference, hhead, hname⟩ := hrecorded
    have hreference := List.mem_of_head? hhead
    exact ⟨reference, hreference, hall reference hreference, hname, htype⟩
  · cases hr.symm.trans hnone

/-- What is known of a property that records the name of a schema: the reference it comes from leads
there, its type has no name in it but the one that this reference is displayed with, and the file of
the entity imports the recorded name, or declares it where it is that of the entity itself. -/
structure Records (doc : Document) (entity : Entity) (file : EntityFile) (p : EntityProperty)
    (schema : Schema) (reference name : String) : Prop where
  leads : Reference.componentName? reference .schemas = some name
  resolves : resolves doc reference
  spelled : ∀ spelled, p.type.Names spelled ↔
    (schema.kind = .array → schema.literals? = none) ∧ Reference.displayName reference = spelled
  imported : EntityFile.isEntityName name → name ≠ entity.schemaName →
    EntityFile.referenceImport file.exportForm name ∈ file.imports
  aliased : name = entity.schemaName → file.localAlias = some name

/-- A reference to a component is displayed with the name of the component exactly if there is no
number sign in its last segment. So whatever a property records, the name in its type is the
recorded one, which its file imports or declares, exactly if this holds of the reference it comes
from. -/
theorem displayed_and_recorded_names (doc : Document) (policy : ReferencePolicy) :
    (∀ reference name, Reference.componentName? reference .schemas = some name →
      (Reference.displayName reference = name ↔
        '#' ∉ Text.lastPiece '/' reference.toList)) ∧
    ∀ {entities entity top p name} (options : EntityOptions),
      (extract doc policy).outcome = .ok entities → entity ∈ entities →
      top ∈ entity.properties → EntityProperty.Within p top → p.reference = some name →
      ∃ entry ∈ doc.components.schemas, entry.1 = entity.schemaName ∧
        ∃ place schema, Schema.StandsAt entry.1 entry.2.properties place schema ∧
        ∃ reference ∈ schema.lookedUp,
          Records doc entity (EntityFile.ofEntity options entity) p schema reference name ∧
          ∀ spelled, p.type.Names spelled →
            (spelled = name ↔ '#' ∉ Text.lastPiece '/' reference.toList) := by
  refine ⟨fun reference name h => Reference.displayName_eq_iff h, ?_⟩
  intro entities entity top p name options h he htop hw hr
  obtain ⟨entry, hentry, hkey, place, key, required, schema, hstands, hflat⟩ :=
    exists_place h he htop hw
  obtain ⟨reference, hreference, hresolves, hname, htype⟩ := exists_reference_of_recorded hflat hr
  have hmentioned : ∃ q ∈ entity.properties, q.Mentions name :=
    ⟨top, htop, EntityProperty.mentions_iff.mpr ⟨p, hw, hr⟩⟩
  have hrecords : Records doc entity (EntityFile.ofEntity options entity) p schema reference
      name := by
    refine ⟨hname, hresolves, fun spelled => ?_, fun hentity hother => ?_, ?_⟩
    · rw [htype]
      exact Schema.names_typeExpr_of_lookedUp hreference
    · exact EntityFile.referenceImport_mem_imports_iff.mpr ⟨hother, hentity, hmentioned⟩
    · rintro rfl
      exact EntityFile.localAlias_eq_some_iff.mpr ⟨isEntityName_schemaName h he, hmentioned⟩
  refine ⟨entry, hentry, hkey, place, schema, hstands, reference, hreference, hrecords, ?_⟩
  intro spelled hspelled
  rw [← ((hrecords.spelled spelled).mp hspelled).2]
  exact Reference.displayName_eq_iff hname

theorem displayed_and_recorded_names_orderOfUser :
    ∃ entities, (extract orderOfUser .error).outcome = .ok entities ∧
      ∃ entity ∈ entities, entity.schemaName = "OrderEntity" ∧ ∃ p ∈ entity.properties,
        EntityProperty.Within p p ∧ p.reference = some "UserEntity" ∧
        EntityFile.referenceImport .named "UserEntity" ∈
          (EntityFile.ofEntity {} entity).imports := by
  have hextract : (extract orderOfUser .error).outcome.map
      (List.map fun entity => (entity.schemaName, entity.properties.map EntityProperty.reference))
      = .ok [("OrderEntity", [some "UserEntity"]), ("UserEntity", [])] := by
    decide +kernel
  obtain ⟨entities, h, entity, he, hentity⟩ :=
    exists_mem_of_map_eq_ok hextract (List.mem_cons_self ..)
  obtain ⟨hname, hreferences⟩ := Prod.mk.inj hentity
  obtain ⟨p, hp, hr⟩ := List.mem_map.mp (hreferences ▸ List.mem_singleton.mpr rfl)
  obtain ⟨entry, -, -, place, schema, -, reference, -, hrecords, -⟩ :=
    (displayed_and_recorded_names orderOfUser .error).2 {} h he hp .self hr
  refine ⟨entities, h, entity, he, hname, p, hp, .self, hr, ?_⟩
  exact hrecords.imported (by decide +kernel) (by rw [hname]; decide)

/-- The name of a user has a number sign in it. -/
def numberedUser : Document :=
  .ofKeys [] [("OrderEntity", Generation.referringSchema "user" "User#1Entity"),
    ("User#1Entity", {})]

/-- The type of the property has a part of the name in it, while the whole of it is recorded and
imported. -/
theorem part_of_name_displayed :
    Reference.componentName? "#/components/schemas/User#1Entity" .schemas = some "User#1Entity" ∧
      Reference.displayName "#/components/schemas/User#1Entity" = "1Entity" ∧
      ∃ entities, (extract numberedUser .error).outcome = .ok entities ∧
        ∃ entity ∈ entities, entity.schemaName = "OrderEntity" ∧
          entity.properties.map (fun p => (p.type.text 0, p.reference)) =
            [("1Entity", some "User#1Entity")] ∧
          EntityFile.referenceImport .named "User#1Entity" ∈
            (EntityFile.ofEntity {} entity).imports := by
  have hextract : (extract numberedUser .error).outcome.map
      (List.map fun entity => (entity.schemaName,
        entity.properties.map (fun p => (p.type.text 0, p.reference)))) =
      .ok [("OrderEntity", [("1Entity", some "User#1Entity")]), ("User#1Entity", [])] := by
    decide +kernel
  obtain ⟨entities, h, entity, he, hentity⟩ :=
    exists_mem_of_map_eq_ok hextract (List.mem_cons_self ..)
  obtain ⟨hname, hproperties⟩ := Prod.mk.inj hentity
  obtain ⟨p, hp, hpair⟩ := List.mem_map.mp (hproperties ▸ List.mem_singleton.mpr rfl)
  have hmentioned : ∃ q ∈ entity.properties, q.Mentions "User#1Entity" :=
    ⟨p, hp, EntityProperty.mentions_iff.mpr ⟨p, .self, (Prod.mk.inj hpair).2⟩⟩
  refine ⟨by decide +kernel, by decide +kernel, entities, h, entity, he, hname, hproperties, ?_⟩
  refine EntityFile.referenceImport_mem_imports_iff.mpr ⟨?_, by decide +kernel, hmentioned⟩
  rw [hname]
  decide

end Entity
end OpenApiGen
