import OpenApiGen.Proofs.ExtractedItems
import OpenApiGen.Proofs.SourceStatements

/-! # Where the files of a run come from -/

namespace OpenApiGen

variable {P : EmittedFile → Prop}

theorem Output.files_insertAll (output : Output) (item : Item) (batch : List (String × String)) :
    (output.insertAll item batch).value.1.files =
      match output.conflict? item [] batch with
      | some _ => output.files
      | none => output.files ++ batch.map fun (path, content) => ⟨path, content, item⟩ := by
  unfold insertAll
  cases output.conflict? item [] batch <;> rfl

theorem Output.forall_insertAll {output : Output} {item : Item} {batch : List (String × String)}
    (h : ∀ file ∈ output.files, P file) (hb : ∀ entry ∈ batch, P ⟨entry.1, entry.2, item⟩) :
    ∀ file ∈ (output.insertAll item batch).value.1.files, P file := by
  rw [files_insertAll]
  cases output.conflict? item [] batch with
  | some failure => exact h
  | none =>
    intro file hf
    rcases List.mem_append.mp hf with hf | hf
    · exact h file hf
    · obtain ⟨entry, he, rfl⟩ := List.mem_map.mp hf
      exact hb entry he

namespace Generation

theorem Progress.forall_step {α : Type} {progress : Progress α} {a : α} {item : Item}
    {identifier : String} {emit : Output → Traced (Output × Bool)}
    (h : ∀ file ∈ progress.output.files, P file)
    (he : ∀ file ∈ (emit progress.output).value.1.files, P file) :
    ∀ file ∈ (progress.step a item identifier emit).value.output.files, P file := by
  unfold step
  cases takenBy? progress.taken identifier item with
  | some failure => exact h
  | none =>
    simp only [Traced.value_bind]
    split
    · exact he
    · exact he

/-- What holds of all files stays so while items are added, if it holds of the files of each. -/
theorem forall_foldlM {α β : Type} {step : Progress α → β → Traced (Progress α)} {items : List β}
    (hstep : ∀ progress item, item ∈ items → (∀ file ∈ progress.output.files, P file) →
      ∀ file ∈ (step progress item).value.output.files, P file) {progress : Progress α}
    (h : ∀ file ∈ progress.output.files, P file) :
    ∀ file ∈ (items.foldlM step progress).value.output.files, P file := by
  induction items generalizing progress with
  | nil => exact h
  | cons item items ih =>
    rw [List.foldlM_cons, Traced.value_bind]
    refine ih (fun progress item hi => hstep progress item (List.mem_cons_of_mem _ hi)) ?_
    exact hstep progress item (List.mem_cons_self ..) h

/-- How a file comes into the output of a run over these modules and entities. -/
inductive Emits (options : Options) (modules : List ModuleRoutes) (entities : List Entity) :
    EmittedFile → Prop
  | module {module batch entry} (hm : module ∈ modules)
      (hb : moduleFiles options module = .ok batch) (he : entry ∈ batch) :
      Emits options modules entities ⟨entry.1, entry.2, .module module.module⟩
  | mainRouter (content : String) :
      Emits options modules entities ⟨options.fileName mainRouterStem, content, .mainRouter⟩
  | entity {entity} (he : entity ∈ entities) :
      Emits options modules entities
        ⟨(entityFile options entity).1, (entityFile options entity).2, .entity entity.schemaName⟩
  | entityIndex (content : String) :
      Emits options modules entities ⟨options.fileName entityIndexStem, content, .entityIndex⟩

theorem forall_emitModules {options : Options} {modules : List ModuleRoutes} {output : Output}
    (h : ∀ file ∈ output.files, P file)
    (hmodule : ∀ module ∈ modules, ∀ batch, moduleFiles options module = .ok batch →
      ∀ entry ∈ batch, P ⟨entry.1, entry.2, .module module.module⟩)
    (hmain : ∀ content, P ⟨options.fileName mainRouterStem, content, .mainRouter⟩) :
    ∀ file ∈ (emitModules options modules output).value.files, P file := by
  have hmodules : ∀ file ∈ (modules.foldlM (moduleStep options)
      { output := output }).value.output.files, P file := by
    refine forall_foldlM (fun progress module hm hp => Progress.forall_step hp ?_) h
    unfold emitModule
    cases hb : moduleFiles options module with
    | error failure => exact hp
    | ok batch => exact Output.forall_insertAll hp (hmodule module hm batch hb)
  unfold emitModules
  simp only [Traced.value_bind]
  split
  · exact Output.forall_insertAll hmodules (by simpa using hmain _)
  · exact hmodules

theorem forall_emitEntities {options : Options} {entities : List Entity} {output : Output}
    (h : ∀ file ∈ output.files, P file)
    (hentity : ∀ entity ∈ entities, P
      ⟨(entityFile options entity).1, (entityFile options entity).2, .entity entity.schemaName⟩)
    (hindex : ∀ content, P ⟨options.fileName entityIndexStem, content, .entityIndex⟩) :
    ∀ file ∈ (emitEntities options entities output).value.files, P file := by
  have hentities : ∀ file ∈ (entities.foldlM (entityStep options)
      { output := output }).value.output.files, P file := by
    refine forall_foldlM (fun progress entity he hp => Progress.forall_step hp ?_) h
    exact Output.forall_insertAll hp (by simpa using hentity entity he)
  unfold emitEntities
  simp only [Traced.value_bind]
  split
  · exact hentities
  · exact Output.forall_insertAll hentities (by simpa using hindex _)

/-- Every file belongs to a module, to an entity, or to one of the two that sum them up. -/
theorem emits_of_emitAll {options : Options} {modules : List ModuleRoutes} {entities : List Entity} :
    ∀ file ∈ (emitAll options modules entities).value.files,
      Emits options modules entities file := by
  unfold emitAll
  simp only [Traced.value_bind]
  refine forall_emitEntities (forall_emitModules ?_ ?_ .mainRouter) ?_ .entityIndex
  · simp
  · exact fun module hm batch hb entry he => .module hm hb he
  · exact fun entity he => .entity he

theorem mem_fileIf_iff {enabled : Bool} {path content : String} {entry : String × String} :
    entry ∈ fileIf enabled path content ↔ enabled ∧ entry = (path, content) := by
  unfold fileIf
  cases enabled <;> simp

/-- The files that a module may have. -/
def moduleStems (name : String) : List String :=
  [routerStem name, controllerStem name, serviceStem name, schemaStem name]

/-- A file of a module with these handlers, by the family that it is of, where that is enabled: its
path, and the text of the statements that it consists of. -/
inductive FamilyFile (options : Options) (name : String) (handlers : List Handler) :
    String → String → Prop
  | router (h : options.artifacts.routes) :
      FamilyFile options name handlers (options.fileName (routerStem name))
        (Source.text (ModuleRouter.ofHandlers name handlers).source)
  | controller (h : options.artifacts.controllers) :
      FamilyFile options name handlers (options.fileName (controllerStem name))
        (Source.text (ModuleController.ofHandlers name handlers).source)
  | service {service} (h : options.artifacts.services)
      (hs : ModuleService.ofHandlers handlers = .ok service) :
      FamilyFile options name handlers (options.fileName (serviceStem name))
        (Source.text service.source)
  | schemas (h : options.artifacts.schemas) :
      FamilyFile options name handlers (options.fileName (schemaStem name))
        (Source.text (ModuleSchemas.ofHandlers handlers).source)

theorem FamilyFile.exists_stem {options : Options} {name path content : String}
    {handlers : List Handler} (h : FamilyFile options name handlers path content) :
    ∃ stem ∈ moduleStems name, path = options.fileName stem := by
  cases h <;> exact ⟨_, by simp [moduleStems], rfl⟩

/-- What there is of a service in the batch of a module: nothing where services are not enabled. -/
inductive ServicePart (options : Options) (name : String) (handlers : List Handler) :
    List (String × String) → Prop
  | written {service} (h : options.artifacts.services)
      (hs : ModuleService.ofHandlers handlers = .ok service) :
      ServicePart options name handlers [(options.fileName (serviceStem name), service.text)]
  | disabled (h : options.artifacts.services = false) : ServicePart options name handlers []

theorem ServicePart.paths_sublist {options : Options} {name : String} {handlers : List Handler}
    {part : List (String × String)} (h : ServicePart options name handlers part) :
    (part.map Prod.fst).Sublist [options.fileName (serviceStem name)] := by
  cases h with
  | written => exact List.Sublist.refl _
  | disabled => exact List.nil_sublist _

theorem ServicePart.exists_service {options : Options} {name : String} {handlers : List Handler}
    {part : List (String × String)} (h : ServicePart options name handlers part)
    (hservices : options.artifacts.services) :
    ∃ service, ModuleService.ofHandlers handlers = .ok service := by
  cases h with
  | written _ hs => exact ⟨_, hs⟩
  | disabled hdisabled => cases hservices.symm.trans hdisabled

/-- What a module is emitted with, one family of files after the other. -/
theorem exists_batch_of_moduleFiles {options : Options} {module : ModuleRoutes}
    {batch : List (String × String)} (h : moduleFiles options module = .ok batch) :
    ∃ handlers service, Handler.ofModule module = .ok handlers ∧
      ServicePart options module.module handlers service ∧
      batch = fileIf options.artifacts.routes (options.fileName (routerStem module.module))
          (ModuleRouter.ofHandlers module.module handlers).text
        ++ fileIf options.artifacts.controllers (options.fileName (controllerStem module.module))
          (ModuleController.ofHandlers module.module handlers).text
        ++ service
        ++ fileIf options.artifacts.schemas (options.fileName (schemaStem module.module))
          (ModuleSchemas.ofHandlers handlers).text := by
  unfold moduleFiles at h
  simp only [bind_eq_ok_iff] at h
  obtain ⟨handlers, hh, h⟩ := h
  split at h
  · rename_i henabled
    obtain ⟨service, hs, h⟩ := bind_eq_ok_iff.mp h
    exact ⟨handlers, _, hh, .written henabled hs, (Except.ok.inj h).symm⟩
  · rename_i hdisabled
    exact ⟨handlers, [], hh, .disabled (Bool.not_eq_true _ ▸ hdisabled),
      (Except.ok.inj h).symm⟩

/-- The batch of a module has the file of each family that is enabled, and no other file. -/
theorem exists_handlers_of_moduleFiles {options : Options} {module : ModuleRoutes}
    {batch : List (String × String)} (h : moduleFiles options module = .ok batch) :
    ∃ handlers, Handler.ofModule module = .ok handlers ∧
      (options.artifacts.services → ∃ service, ModuleService.ofHandlers handlers = .ok service) ∧
      ∀ path content,
        (path, content) ∈ batch ↔ FamilyFile options module.module handlers path content := by
  obtain ⟨handlers, service, hh, hservice, rfl⟩ := exists_batch_of_moduleFiles h
  refine ⟨handlers, hh, hservice.exists_service, fun path content => ?_⟩
  simp only [List.mem_append, mem_fileIf_iff, ModuleRouter.text_eq_source,
    ModuleController.text_eq_source, ModuleSchemas.text_eq_source]
  constructor
  · rintro (((⟨he, heq⟩ | ⟨he, heq⟩) | he) | ⟨he, heq⟩)
    · cases heq
      exact .router he
    · cases heq
      exact .controller he
    · cases hservice with
      | written henabled hs =>
        cases List.mem_singleton.mp he
        rw [ModuleService.text_eq_source]
        exact .service henabled hs
      | disabled => cases he
    · cases heq
      exact .schemas he
  · intro hfile
    cases hfile with
    | router he => exact .inl (.inl (.inl ⟨he, rfl⟩))
    | controller he => exact .inl (.inl (.inr ⟨he, rfl⟩))
    | @service file he hs =>
      refine .inl (.inr ?_)
      cases hservice with
      | written _ hs' =>
        rw [Except.ok.inj (hs.symm.trans hs'), ← ModuleService.text_eq_source]
        exact List.mem_singleton.mpr rfl
      | disabled hdisabled => cases he.symm.trans hdisabled
    | schemas he => exact .inr ⟨he, rfl⟩

theorem path_of_moduleFiles {options : Options} {module : ModuleRoutes}
    {batch : List (String × String)} (h : moduleFiles options module = .ok batch) :
    ∀ entry ∈ batch, ∃ stem ∈ moduleStems module.module, entry.1 = options.fileName stem := by
  obtain ⟨handlers, -, -, hbatch⟩ := exists_handlers_of_moduleFiles h
  exact fun entry he => ((hbatch entry.1 entry.2).mp he).exists_stem

/-- What is emitted is chosen first, and then emitted. -/
theorem run_eq_bind (options : Options) (doc : Document) :
    run options doc =
      (if options.artifacts.hasModuleFiles then doc.extractModules options.bearerScheme
        else pure []) >>= fun modules =>
      (if options.artifacts.entities then Entity.extract doc options.unresolvedEntityReferences
        else pure []) >>= fun entities =>
      ExceptT.lift (emitAll options modules entities) := by
  unfold run
  by_cases hm : options.artifacts.hasModuleFiles <;> by_cases he : options.artifacts.entities <;>
    simp [hm, he]

/-- The modules and entities that a run takes up. -/
structure Selects (options : Options) (doc : Document) (modules : List ModuleRoutes)
    (entities : List Entity) : Prop where
  modules : if options.artifacts.hasModuleFiles then
    (doc.extractModules options.bearerScheme).outcome = .ok modules else modules = []
  entities : if options.artifacts.entities then
    (Entity.extract doc options.unresolvedEntityReferences).outcome = .ok entities
    else entities = []

variable {options : Options} {doc : Document} {modules : List ModuleRoutes}
  {entities : List Entity} {output : Output}

theorem exists_selects (h : (run options doc).outcome = .ok output) :
    ∃ modules entities, Selects options doc modules entities ∧
      output = (emitAll options modules entities).value := by
  rw [run_eq_bind] at h
  simp only [Attempt.outcome_bind, bind_eq_ok_iff, Attempt.outcome_lift] at h
  obtain ⟨modules, hmodules, entities, hentities, h⟩ := h
  cases h
  refine ⟨modules, entities, ⟨?_, ?_⟩, rfl⟩
  · split at hmodules
    · rename_i hm
      rwa [if_pos hm]
    · rename_i hm
      cases hmodules
      rw [if_neg hm]
  · split at hentities
    · rename_i he
      rwa [if_pos he]
    · rename_i he
      cases hentities
      rw [if_neg he]

namespace Selects

/-- The selected modules and entities are what a run emits. -/
theorem outcome_run (h : Selects options doc modules entities) :
    (run options doc).outcome = .ok (emitAll options modules entities).value := by
  have hmodules : (if options.artifacts.hasModuleFiles then doc.extractModules options.bearerScheme
      else pure [] : Attempt (List ModuleRoutes)).outcome = .ok modules := by
    have hs := h.modules
    split
    · rename_i hm
      rwa [if_pos hm] at hs
    · rename_i hm
      rw [if_neg hm] at hs
      rw [hs]
      rfl
  have hentities : (if options.artifacts.entities then
      Entity.extract doc options.unresolvedEntityReferences
      else pure [] : Attempt (List Entity)).outcome = .ok entities := by
    have hs := h.entities
    split
    · rename_i he
      rwa [if_pos he] at hs
    · rename_i he
      rw [if_neg he] at hs
      rw [hs]
      rfl
  rw [run_eq_bind, Attempt.outcome_bind, hmodules, ok_bind, Attempt.outcome_bind, hentities,
    ok_bind, Attempt.outcome_lift]

theorem names (h : Selects options doc modules entities) (hm : options.artifacts.hasModuleFiles) :
    modules.map ModuleRoutes.module = doc.modules := by
  have hmodules := h.modules
  rw [if_pos hm] at hmodules
  exact Document.names_of_extractModules hmodules

theorem names_sublist (h : Selects options doc modules entities) :
    (modules.map ModuleRoutes.module).Sublist doc.modules := by
  by_cases hm : options.artifacts.hasModuleFiles
  · rw [h.names hm]
  · have hmodules := h.modules
    rw [if_neg hm] at hmodules
    simp [hmodules]

theorem schemaNames (h : Selects options doc modules entities) :
    (entities.map Entity.schemaName).Sublist (KeyedList.keys doc.components.schemas) ∧
      ∀ entity ∈ entities, Entity.stripSuffix? entity.schemaName = some entity.name := by
  have hentities := h.entities
  split at hentities
  · rw [Entity.schemaNames_of_extract hentities]
    exact ⟨List.filter_sublist, fun entity he => (Entity.of_extract hentities entity he).2⟩
  · simp [hentities]

end Selects

/-- A run that comes to an output emits modules and entities of the document. -/
theorem run_eq_ok (h : (run options doc).outcome = .ok output) :
    ∃ modules entities, output = (emitAll options modules entities).value ∧
      (∀ module ∈ modules, module.module ∈ doc.modules) ∧
      ∀ entity ∈ entities, entity.schemaName ∈ KeyedList.keys doc.components.schemas ∧
        Entity.stripSuffix? entity.schemaName = some entity.name := by
  obtain ⟨modules, entities, hs, rfl⟩ := exists_selects h
  obtain ⟨hnames, hstripped⟩ := hs.schemaNames
  refine ⟨modules, entities, rfl, fun module hm => ?_, fun entity he => ?_⟩
  · exact hs.names_sublist.subset (List.mem_map_of_mem hm)
  · exact ⟨hnames.subset (List.mem_map_of_mem he), hstripped entity he⟩

end Generation
end OpenApiGen
