import OpenApiGen.Proofs.Aggregates
import OpenApiGen.Proofs.EntityReferences
import Mathlib.Data.List.DropRight

/-! # Whether the imports of an entity file lead to files that export what is imported -/

namespace OpenApiGen

/-- A path up to its last slash. -/
def directory (path : String) : String := String.ofList (path.toList.rdropWhile (· != '/'))

theorem directory_of_not_mem {path : String} (h : '/' ∉ path.toList) : directory path = "" := by
  have hnil : path.toList.rdropWhile (· != '/') = [] := by
    rw [List.rdropWhile_eq_nil_iff]
    intro c hc
    rw [bne_iff_ne]
    rintro rfl
    exact h hc
  rw [directory, hnil, String.ofList_nil]

/-- A default export answers to any name, another one to its own. -/
def EntityFile.Answers (file : EntityFile) : ImportClause → Prop
  | .default _ => file.exportForm = .default
  | .renamed name _ => file.exportForm = .named ∧ file.name = name
  | .names names | .block names => file.exportForm = .named ∧ ∀ name ∈ names, name = file.name

theorem EntityFile.answers_referenceImport {options : EntityOptions} {entity referenced : Entity}
    (hname : Entity.stripSuffix? referenced.schemaName = some referenced.name) :
    (ofEntity options entity).Answers
        (referenceImport options.exportForm referenced.schemaName).clause ↔
      (options.exportForm = .named →
        Naming.typeIdentifier entity.name = Naming.typeIdentifier referenced.name) := by
  cases hform : options.exportForm <;>
    simp [referenceImport, Answers, ofEntity, hform, hname]

theorem EntityFile.source_referenceImport {form : ExportForm} {schemaName name : String}
    (hname : Entity.stripSuffix? schemaName = some name) :
    (referenceImport form schemaName).source = "./" ++ stem name := by
  simp only [referenceImport, hname, Option.getD_some]

theorem EntityFile.typeOnly_of_decoratorImports {members : List EntityMember}
    {typeOrm validated : Bool} :
    ∀ i ∈ decoratorImports members typeOrm validated, i.typeOnly = false := by
  intro i hi
  rcases List.mem_append.mp hi with hi | hi
  · split at hi
    · rw [List.mem_singleton.mp hi]
    · cases hi
  · split at hi
    · rw [List.mem_singleton.mp hi]
    · cases hi

namespace Generation

/-- An import from `./` and a stem leads to the file of that stem next to the importing one: it is
in the output under this path, as it is written, and exports what is imported. -/
def Resolves (options : Options) (entities : List Entity) (output : Output) (path : String)
    (i : Import) : Prop :=
  ∃ stem, i.source = "./" ++ stem ∧ ∃ target ∈ entities,
    ownFile options target ∈ output.files ∧
    (ownFile options target).path = directory path ++ options.fileName stem ∧
    (EntityFile.ofEntity options.entities target).Answers i.clause

variable {options : Options} {doc : Document} {entities : List Entity} {output : Output}

theorem eq_of_source {stem stem' : String} (h : "./" ++ stem = "./" ++ stem') : stem = stem' := by
  rwa [← String.toList_inj, String.toList_append, String.toList_append, List.append_cancel_left_eq,
    String.toList_inj] at h

/-- The extension and the ending of entity files are the same on both sides. -/
theorem path_ownFile_eq_iff {front : String} {target referenced : Entity} :
    (ownFile options target).path = front ++ options.fileName (EntityFile.stem referenced.name) ↔
      Unicode.lowercase target.name = front ++ Unicode.lowercase referenced.name := by
  -- the directory goes into the stem, so that both sides are file names
  have hsuffix : front ++ options.fileName (EntityFile.stem referenced.name) =
      options.fileName ((front ++ Unicode.lowercase referenced.name) ++ ".entity") := by
    unfold Options.fileName EntityFile.stem
    split <;> simp only [String.append_assoc]
  rw [hsuffix]
  change options.fileName (EntityFile.stem target.name) = _ ↔ _
  rw [Options.fileName_inj, EntityFile.stem, ← String.toList_inj, String.toList_append,
    String.toList_append, List.append_cancel_right_eq, String.toList_inj]

theorem resolves_referenceImport {path : String} {referenced : Entity}
    (hname : Entity.stripSuffix? referenced.schemaName = some referenced.name) :
    Resolves options entities output path
        (EntityFile.referenceImport options.entities.exportForm referenced.schemaName) ↔
      ∃ target ∈ entities, ownFile options target ∈ output.files ∧
        Unicode.lowercase target.name = directory path ++ Unicode.lowercase referenced.name ∧
        (options.entities.exportForm = .named →
          Naming.typeIdentifier target.name = Naming.typeIdentifier referenced.name) := by
  constructor
  · rintro ⟨stem, hsource, target, ht, hfile, hpath, hanswers⟩
    rw [EntityFile.source_referenceImport hname] at hsource
    rw [← eq_of_source hsource, path_ownFile_eq_iff] at hpath
    exact ⟨target, ht, hfile, hpath, (EntityFile.answers_referenceImport hname).mp hanswers⟩
  · rintro ⟨target, ht, hfile, hpath, hanswers⟩
    exact ⟨EntityFile.stem referenced.name, EntityFile.source_referenceImport hname, target, ht,
      hfile, path_ownFile_eq_iff.mpr hpath, (EntityFile.answers_referenceImport hname).mpr hanswers⟩

theorem exists_referenceImport
    (h : (Entity.extract doc options.unresolvedEntityReferences).outcome = .ok entities)
    {entity : Entity} (he : entity ∈ entities) {i : Import}
    (hi : i ∈ (EntityFile.ofEntity options.entities entity).imports) (ht : i.typeOnly) :
    ∃ referenced ∈ entities,
      i = EntityFile.referenceImport options.entities.exportForm referenced.schemaName := by
  rcases List.mem_append.mp hi with hi | hi
  · have hvalue := EntityFile.typeOnly_of_decoratorImports i hi
    rw [hvalue] at ht
    cases ht
  · obtain ⟨schemaName, hr, rfl⟩ := List.mem_map.mp hi
    obtain ⟨referenced, hreferenced, rfl⟩ :=
      Entity.exists_referenced h he (List.mem_filter.mp hr).1
    exact ⟨referenced, hreferenced, rfl⟩

theorem path_of_resolves {path stem : String} {i : Import} (hsource : i.source = "./" ++ stem)
    (h : Resolves options entities output path i) :
    directory path ++ options.fileName stem ∈ output.paths := by
  obtain ⟨stem', hsource', target, -, hfile, hpath, -⟩ := h
  rw [← eq_of_source (hsource'.symm.trans hsource), ← hpath]
  exact List.mem_map_of_mem hfile

/-- Every type import in what is written for an entity asks for another entity. It resolves exactly
if an entity is emitted whose name in lower case is the directory of the importing file and the name
of the other one, under the same identifier where exports have names. In the output directory itself
the file of the other entity will do; below it, only that of a third one. -/
theorem imports_resolve_iff (he : options.artifacts.entities)
    (hr : (run options doc).outcome = .ok output) :
    ∃ entities, (Entity.extract doc options.unresolvedEntityReferences).outcome = .ok entities ∧
      ∀ entity ∈ entities,
        (ownFile options entity).content =
          Source.text (EntityFile.ofEntity options.entities entity).source ∧
        Source.imports (EntityFile.ofEntity options.entities entity).source =
          (EntityFile.ofEntity options.entities entity).imports ∧
        ∀ i ∈ (EntityFile.ofEntity options.entities entity).imports,
          i.typeOnly → ∃ referenced ∈ entities,
            i = EntityFile.referenceImport options.entities.exportForm referenced.schemaName ∧
            (Resolves options entities output (ownFile options entity).path i ↔
              ∃ target ∈ entities, ownFile options target ∈ output.files ∧
                Unicode.lowercase target.name = directory (ownFile options entity).path
                  ++ Unicode.lowercase referenced.name ∧
                (options.entities.exportForm = .named →
                  Naming.typeIdentifier target.name = Naming.typeIdentifier referenced.name)) ∧
            ('/' ∉ (ownFile options entity).path.toList →
              ownFile options referenced ∈ output.files →
              Resolves options entities output (ownFile options entity).path i) := by
  obtain ⟨modules, entities, hs, -⟩ := exists_selects hr
  have hextract := hs.entities
  rw [if_pos he] at hextract
  refine ⟨entities, hextract, fun entity hentity =>
    ⟨EntityFile.text_eq_source _, EntityFile.imports_source _, fun i hi ht => ?_⟩⟩
  obtain ⟨referenced, hreferenced, rfl⟩ := exists_referenceImport hextract hentity hi ht
  have hname := hs.schemaNames.2 referenced hreferenced
  refine ⟨referenced, hreferenced, rfl, resolves_referenceImport hname, fun hslash hfile => ?_⟩
  refine (resolves_referenceImport hname).mpr ⟨referenced, hreferenced, hfile, ?_, fun _ => rfl⟩
  rw [directory_of_not_mem hslash, String.empty_append]

/-- A schema with one property, which refers to another one. -/
def referringSchema (property schemaName : String) : Schema :=
  { properties := [(property, { reference := some ("#/components/schemas/" ++ schemaName) })] }

/-- The second entity has the identifier of the first one, and the third refers to it. -/
def skippedReference : Document :=
  .ofKeys [] [("User-XEntity", {}), ("UserXEntity", {}),
    ("OrderEntity", referringSchema "user" "UserXEntity")]

theorem imports_resolve_iff_skipped : routesAndEntities.artifacts.entities ∧
    ∃ output, (run routesAndEntities skippedReference).outcome = .ok output ∧
      output.paths = ["user-x.entity.ts", "order.entity.ts", "index.ts"] ∧
      ∃ entities, (Entity.extract skippedReference .error).outcome = .ok entities ∧
        ∃ entity ∈ entities, (ownFile routesAndEntities entity).path = "order.entity.ts" ∧
          ∃ i ∈ (EntityFile.ofEntity {} entity).imports, i.source = "./userx.entity" ∧
            ¬Resolves routesAndEntities entities output "order.entity.ts" i := by
  have hrun : (run routesAndEntities skippedReference).outcome.map Output.paths
      = .ok ["user-x.entity.ts", "order.entity.ts", "index.ts"] := by
    decide +kernel
  obtain ⟨output, hr, hpaths⟩ := map_eq_ok_iff.mp hrun
  obtain ⟨entities, hextract, himports⟩ := imports_resolve_iff rfl hr
  have hfiles : entities.map (fun entity =>
        ((ownFile routesAndEntities entity).path, (EntityFile.ofEntity {} entity).imports))
      = [("user-x.entity.ts", []), ("userx.entity.ts", []),
        ("order.entity.ts", [⟨true, .renamed "UserX" "UserXEntity", "./userx.entity"⟩])] :=
    eq_of_map_eq_ok (by decide +kernel) hextract
  obtain ⟨entity, hentity, hfile⟩ : ∃ entity ∈ entities, ((ownFile routesAndEntities entity).path,
      (EntityFile.ofEntity {} entity).imports) = ("order.entity.ts",
        [⟨true, .renamed "UserX" "UserXEntity", "./userx.entity"⟩]) := by
    refine List.mem_map.mp ?_
    rw [hfiles]
    simp
  obtain ⟨hpath, hi⟩ := Prod.mk.inj hfile
  have hmem : (⟨true, .renamed "UserX" "UserXEntity", "./userx.entity"⟩ : Import) ∈
      (EntityFile.ofEntity {} entity).imports := by simp [hi]
  refine ⟨rfl, output, hr, hpaths, entities, hextract, entity, hentity, hpath, _, hmem, rfl, ?_⟩
  obtain ⟨referenced, hreferenced, heq, hiff, -⟩ := (himports entity hentity).2.2 _ hmem rfl
  have hsource := congrArg Import.source heq
  rw [EntityFile.source_referenceImport (Entity.of_extract hextract referenced hreferenced).2]
    at hsource
  have hstem : "userx.entity" = EntityFile.stem referenced.name :=
    eq_of_source (Eq.trans (by decide) hsource)
  rw [hpath] at hiff
  rw [hiff]
  rintro ⟨target, -, htarget, hlower, -⟩
  have htargetPath : (ownFile routesAndEntities target).path =
      directory "order.entity.ts" ++ routesAndEntities.fileName "userx.entity" := by
    rw [hstem]
    exact path_ownFile_eq_iff.mpr hlower
  have htaken : (ownFile routesAndEntities target).path ∈ output.paths :=
    List.mem_map_of_mem htarget
  rw [htargetPath, hpaths] at htaken
  exact absurd htaken (by decide +kernel)

/-- An entity in a directory of its own, which refers to one that is not. -/
def referenceFromBelow : Document :=
  .ofKeys [] [("admin/RoleEntity", referringSchema "order" "OrderEntity"), ("OrderEntity", {})]

/-- Although all files are emitted, an import asks for one that is not among them. -/
theorem import_misses_directory :
    ∃ output, (run routesAndEntities referenceFromBelow).outcome = .ok output ∧
      output.isComplete ∧
      output.paths = ["admin/role.entity.ts", "order.entity.ts", "index.ts"] ∧
      ∃ entities, (Entity.extract referenceFromBelow .error).outcome = .ok entities ∧
        ¬∀ entity ∈ entities, ownFile routesAndEntities entity ∈ output.files →
          ∀ i ∈ (EntityFile.ofEntity {} entity).imports, i.typeOnly → Resolves routesAndEntities
            entities output (ownFile routesAndEntities entity).path i := by
  have hrun : (run routesAndEntities referenceFromBelow).outcome.map
      (fun output => (output.isComplete, output.files.map fun file => (file.path, file.owner)))
      = .ok (true, [("admin/role.entity.ts", .entity "admin/RoleEntity"),
        ("order.entity.ts", .entity "OrderEntity"), ("index.ts", .entityIndex)]) := by
    decide +kernel
  obtain ⟨output, hr, hvalue⟩ := map_eq_ok_iff.mp hrun
  obtain ⟨hcomplete, hfiles⟩ := Prod.mk.inj hvalue
  have hpaths : output.paths = ["admin/role.entity.ts", "order.entity.ts", "index.ts"] := by
    have hfirst := congrArg (List.map Prod.fst) hfiles
    rwa [List.map_map] at hfirst
  obtain ⟨file, hfile, hvalue⟩ : ∃ file ∈ output.files,
      (file.path, file.owner) = ("admin/role.entity.ts", .entity "admin/RoleEntity") := by
    refine List.mem_map.mp ?_
    rw [hfiles]
    simp
  obtain ⟨hpath, howner⟩ := Prod.mk.inj hvalue
  obtain ⟨modules, entities, mounted, skipped, exported, dropped, hs, h⟩ :=
    exists_settles_of_run hr
  obtain ⟨entity, hexported, hname, rfl⟩ := (h.mem_of_owner hfile).2 _ howner
  have hentity := h.entityOrder.subset hexported
  have hextract : (Entity.extract referenceFromBelow .error).outcome = .ok entities := hs.entities
  have himports : entities.map (fun entity =>
        (entity.schemaName, (EntityFile.ofEntity {} entity).imports))
      = [("admin/RoleEntity", [⟨true, .renamed "Order" "OrderEntity", "./order.entity"⟩]),
        ("OrderEntity", [])] :=
    eq_of_map_eq_ok (by decide +kernel) hextract
  have hi : (EntityFile.ofEntity {} entity).imports =
      [⟨true, .renamed "Order" "OrderEntity", "./order.entity"⟩] := by
    have hmem := List.mem_map_of_mem (f := fun entity =>
      (entity.schemaName, (EntityFile.ofEntity {} entity).imports)) hentity
    rw [himports, hname] at hmem
    simpa using hmem
  refine ⟨_, hr, hcomplete, hpaths, entities, hextract, fun hall => ?_⟩
  have hresolves := hall entity hentity hfile _ (hi ▸ List.mem_singleton.mpr rfl) rfl
  have hsource : "./order.entity" = "./" ++ "order.entity" := by decide
  have hmissing := path_of_resolves hsource hresolves
  rw [hpath, hpaths] at hmissing
  exact absurd hmissing (by decide +kernel)

end Generation
end OpenApiGen
