import OpenApiGen.Proofs.NameLetters
import OpenApiGen.Proofs.SpelledReferences

/-!
# The names that an entity file binds

Decorators, imported entities, the alias of the entity and the declared type are named by four rules
that do not look at each other. Only the declared type can have the name of something else.
-/

namespace OpenApiGen

namespace EntityFile

/-- The decorators that a file imports: all other imports are of types. -/
def decorators (file : EntityFile) : List String :=
  Import.localNames (file.imports.filter fun i => !i.typeOnly)

theorem nodup_addReference {found : List String} {reference : String} (h : found.Nodup) :
    (addReference found reference).Nodup := by
  unfold addReference
  split
  · rename_i hnew
    rw [Bool.and_eq_true, Bool.not_eq_true', ← Bool.not_eq_true, List.contains_iff_mem] at hnew
    rw [List.nodup_append]
    refine ⟨h, by simp, ?_⟩
    rintro name hname _ hmem rfl
    exact hnew.2 (List.mem_singleton.mp hmem ▸ hname)
  · exact h

mutual

theorem nodup_references : (p : EntityProperty) → {found : List String} → found.Nodup →
    (references found p).Nodup
  | { nested := nested, reference := reference, .. }, found, h => by
    rw [references]
    refine nodup_allReferences nested ?_
    cases reference with
    | none => exact h
    | some reference => exact nodup_addReference h

theorem nodup_allReferences : (ps : List EntityProperty) → {found : List String} → found.Nodup →
    (allReferences found ps).Nodup
  | [], found, h => h
  | p :: rest, found, h => by
    rw [allReferences]
    exact nodup_allReferences rest (nodup_references p h)

end

def decoratorNames : List String := typeOrmNames ++ validationNames

theorem nodup_decoratorNames : decoratorNames.Nodup := by decide

theorem not_isEntityName_decorator : ∀ name ∈ decoratorNames, isEntityName name = false := by
  simp [decoratorNames, typeOrmNames, validationNames, isEntityName, Entity.stripSuffix?,
    Entity.suffix, Text.before?, Text.after?]

/-- Decorators are imported in the order of the two lists, at most once each. -/
theorem localNames_decoratorImports_sublist (members : List EntityMember)
    (typeOrm validated : Bool) :
    (Import.localNames (decoratorImports members typeOrm validated)).Sublist decoratorNames := by
  rw [decoratorImports, Import.localNames, List.flatMap_append]
  refine List.Sublist.append ?_ ?_
  · split
    · simp [ImportClause.localNames]
    · exact List.nil_sublist _
  · split
    · simp [ImportClause.localNames]
    · exact List.nil_sublist _

theorem localNames_referenceImports (form : ExportForm) (schemaNames : List String) :
    Import.localNames (schemaNames.map (referenceImport form)) = schemaNames := by
  induction schemaNames with
  | nil => rfl
  | cons schemaName schemaNames ih =>
    rw [Import.localNames] at ih ⊢
    rw [List.map_cons, List.flatMap_cons, ih]
    cases form <;> rfl

/-- A name with the suffix behind it is never the identifier of what stands in front. -/
theorem typeIdentifier_ne_schemaName {schemaName name : String}
    (h : Entity.stripSuffix? schemaName = some name) : Naming.typeIdentifier name ≠ schemaName := by
  intro heq
  have hshort := Naming.length_typeIdentifier_le name
  have hsuffix : Entity.suffix.toList.length = 6 := by decide
  rw [heq, Entity.stripSuffix?_eq_some_iff.mp h, String.toList_append, List.length_append,
    hsuffix] at hshort
  omega

section

variable (options : EntityOptions) (entity : Entity)

theorem eq_of_mem_localAlias {name : String}
    (h : name ∈ (ofEntity options entity).localAlias.toList) : name = entity.schemaName := by
  rw [Option.mem_toList, ofEntity] at h
  dsimp only at h
  split at h
  · exact (Option.some.inj h).symm
  · cases h

theorem decorators_eq : (ofEntity options entity).decorators =
    Import.localNames (decoratorImports (ofEntity options entity).members
      (options.useClasses && options.includeTypeOrm)
      (options.useClasses && options.includeValidation)) := by
  have hskipped : ∀ schemaNames : List String,
      (schemaNames.map (referenceImport options.exportForm)).filter (fun i => !i.typeOnly) = [] := by
    intro schemaNames
    refine List.filter_eq_nil_iff.mpr fun i hi => ?_
    obtain ⟨schemaName, -, rfl⟩ := List.mem_map.mp hi
    exact Bool.false_ne_true
  unfold decorators ofEntity
  rw [List.filter_append, hskipped, List.append_nil, List.filter_eq_self.mpr]
  intro i hi
  rw [typeOnly_of_decoratorImports i hi]
  rfl

theorem decorators_ofEntity : (ofEntity options entity).decorators.Sublist decoratorNames ∧
    Import.localNames (ofEntity options entity).imports = (ofEntity options entity).decorators ++
      (allReferences [] entity.properties).filter (· != entity.schemaName) := by
  rw [decorators_eq]
  refine ⟨localNames_decoratorImports_sublist _ _ _, ?_⟩
  have htypes := localNames_referenceImports options.exportForm
    ((allReferences [] entity.properties).filter (· != entity.schemaName))
  exact List.flatMap_append.trans (congrArg _ htypes)

end

variable {doc : Document} {policy : ReferencePolicy} {entities : List Entity} {entity : Entity}

/-- Whatever is imported or an alias has a name of its own. -/
theorem nodup_importedNames (hself : isEntityName entity.schemaName) (options : EntityOptions) :
    (Import.localNames (ofEntity options entity).imports
      ++ (ofEntity options entity).localAlias.toList).Nodup := by
  obtain ⟨hsub, hnames⟩ := decorators_ofEntity options entity
  have hreferences : ((allReferences [] entity.properties).filter
      (· != entity.schemaName)).Nodup :=
    (nodup_allReferences entity.properties List.nodup_nil).filter _
  have hplain : ∀ name ∈ (ofEntity options entity).decorators, ¬isEntityName name := by
    intro name hname
    rw [not_isEntityName_decorator name (hsub.subset hname)]
    decide
  have halias : (ofEntity options entity).localAlias.toList.Nodup := by
    cases (ofEntity options entity).localAlias <;> simp
  rw [hnames, List.nodup_append, List.nodup_append]
  refine ⟨⟨nodup_decoratorNames.sublist hsub, hreferences, ?_⟩, halias, ?_⟩
  · rintro name hname _ hreference rfl
    have hentity := (mem_allReferences_nil_iff.mp (List.mem_filter.mp hreference).1).1
    exact hplain name hname hentity
  · rintro name hname _ hmem rfl
    rw [eq_of_mem_localAlias options entity hmem] at hname
    rcases List.mem_append.mp hname with hname | hname
    · exact hplain _ hname hself
    · simpa using (List.mem_filter.mp hname).2

/-- The names at the top level of what is written for an entity are distinct, unless the declared
one is that of a decorator which the file imports, or that of another entity which a property
mentions. -/
theorem nodup_boundNames_iff (h : (Entity.extract doc policy).outcome = .ok entities)
    (he : entity ∈ entities) (options : EntityOptions) :
    (ofEntity options entity).text = Source.text (ofEntity options entity).source ∧
    ((Source.boundNames (ofEntity options entity).source).Nodup ↔
      Naming.typeIdentifier entity.name ∉ (ofEntity options entity).decorators ∧
      ¬(isEntityName (Naming.typeIdentifier entity.name) ∧
        ∃ p ∈ entity.properties, p.Mentions (Naming.typeIdentifier entity.name))) := by
  have hself := Entity.isEntityName_schemaName h he
  have hown : Naming.typeIdentifier entity.name ≠ entity.schemaName :=
    typeIdentifier_ne_schemaName (Entity.of_extract h entity he).2
  have hname : (ofEntity options entity).name = Naming.typeIdentifier entity.name := rfl
  have hreferences : Naming.typeIdentifier entity.name ∈
        (allReferences [] entity.properties).filter (· != entity.schemaName) ↔
      isEntityName (Naming.typeIdentifier entity.name) ∧
        ∃ p ∈ entity.properties, p.Mentions (Naming.typeIdentifier entity.name) := by
    rw [List.mem_filter, mem_allReferences_nil_iff, bne_iff_ne, and_iff_left hown]
  have halias : Naming.typeIdentifier entity.name ∉
      (ofEntity options entity).localAlias.toList := by
    intro hmem
    exact hown (eq_of_mem_localAlias options entity hmem)
  have hfront := nodup_importedNames hself options
  refine ⟨text_eq_source _, ?_⟩
  rw [boundNames_source, List.nodup_append_comm, List.singleton_append, List.nodup_cons,
    and_iff_left hfront, (decorators_ofEntity options entity).2, hname, List.mem_append,
    List.mem_append, hreferences, not_or, not_or, and_iff_left halias]

/-- Classes with the decorators of both libraries. -/
def decorated : EntityOptions where
  includeTypeOrm := true
  includeValidation := true

theorem nodup_boundNames_orderOfUser :
    ∃ entities, (Entity.extract Entity.orderOfUser .error).outcome = .ok entities ∧
      ∃ entity ∈ entities,
        (ofEntity decorated entity).decorators = ["Entity", "Column", "IsOptional"] ∧
        entity.name = "Order" ∧
        (ofEntity decorated entity).source.BindsOnce (ofEntity decorated entity).text := by
  have hextract : (Entity.extract Entity.orderOfUser .error).outcome.map
      (List.map fun entity => (entity.name, (ofEntity decorated entity).decorators))
      = .ok [("Order", ["Entity", "Column", "IsOptional"]), ("User", ["Entity"])] := by
    decide +kernel
  obtain ⟨entities, h, entity, he, hentity⟩ :=
    exists_mem_of_map_eq_ok hextract (List.mem_cons_self ..)
  obtain ⟨hname, hdecorators⟩ := Prod.mk.inj hentity
  obtain ⟨htext, hiff⟩ := nodup_boundNames_iff h he decorated
  refine ⟨entities, h, entity, he, hdecorators, hname, htext, hiff.mpr ?_⟩
  rw [hname, hdecorators]
  exact ⟨by decide +kernel, fun hmentioned => absurd hmentioned.1 (by decide +kernel)⟩

/-- The name of an entity without the suffix is that of the other schema with it. -/
def ownerOfUser : Document :=
  .ofKeys [] [("UserEntityEntity", Generation.referringSchema "owner" "UserEntity"),
    ("UserEntity", {})]

/-- The class has the name of the type that the same file imports. -/
theorem declared_name_imported :
    ∃ entities, (Entity.extract ownerOfUser .error).outcome = .ok entities ∧
      ∃ entity ∈ entities, entity.schemaName = "UserEntityEntity" ∧
        (ofEntity {} entity).text = Source.text (ofEntity {} entity).source ∧
        Source.boundNames (ofEntity {} entity).source = ["UserEntity", "UserEntity"] ∧
        ¬(Source.boundNames (ofEntity {} entity).source).Nodup := by
  have hextract : (Entity.extract ownerOfUser .error).outcome.map
      (List.map fun entity =>
        (entity.schemaName, Source.boundNames (ofEntity {} entity).source))
      = .ok [("UserEntityEntity", ["UserEntity", "UserEntity"]), ("UserEntity", ["User"])] := by
    decide +kernel
  obtain ⟨entities, h, entity, he, hentity⟩ :=
    exists_mem_of_map_eq_ok hextract (List.mem_cons_self ..)
  obtain ⟨hname, hbound⟩ := Prod.mk.inj hentity
  exact ⟨entities, h, entity, he, hname, text_eq_source _, hbound, by rw [hbound]; decide⟩

end EntityFile

end OpenApiGen
