import OpenApiGen.Proofs.Passes
import OpenApiGen.Proofs.PathFamilies

/-! # What a run comes to: the items that are emitted, those that are not, and nothing else -/

namespace OpenApiGen

namespace Generation

/-- A file lies where its item has files. -/
def AtStem (options : Options) (file : EmittedFile) : Prop :=
  ∃ stem ∈ file.owner.stems, file.path = options.fileName stem

theorem fileName_not_mem_paths {options : Options} {output : Output} {item : Item} {stem : String}
    (hs : stem ∈ item.stems)
    (h : ∀ file ∈ output.files, AtStem options file ∧ file.owner.family ≠ item.family) :
    options.fileName stem ∉ output.paths := by
  intro hm
  obtain ⟨file, hf, hpath⟩ := Output.mem_paths.mp hm
  obtain ⟨⟨stem', hs', hpath'⟩, hfamily⟩ := h file hf
  have hstem : stem' = stem := Options.fileName_inj.mp (hpath'.symm.trans hpath)
  exact hfamily (by rw [Item.family_eq_ofStem hs', hstem, Item.family_eq_ofStem hs])

/-- A file of a family that has none so far is emitted. -/
theorem value_insertAll_new {options : Options} {output : Output} {item : Item} {stem : String}
    (hs : stem ∈ item.stems)
    (h : ∀ file ∈ output.files, AtStem options file ∧ file.owner.family ≠ item.family)
    (content : String) :
    (output.insertAll item [(options.fileName stem, content)]).value.1 =
      { output with files := output.files ++ [⟨options.fileName stem, content, item⟩] } := by
  have hconflict : output.conflict? item [] [(options.fileName stem, content)] = none := by
    simp [Output.conflict?_eq_none_iff, fileName_not_mem_paths hs h]
  simp only [Output.insertAll, hconflict]
  rfl

theorem atStem_of_module {options : Options} {module : ModuleRoutes} :
    ∀ file ∈ (Offer.ofModule options module).emitted,
      AtStem options file ∧ file.owner = .module module.module := by
  intro file hf
  unfold Offer.emitted at hf
  split at hf
  · rename_i batch hbatch
    obtain ⟨entry, he, rfl⟩ := List.mem_map.mp hf
    exact ⟨path_of_moduleFiles hbatch entry he, rfl⟩
  · cases hf

def ownFile (options : Options) (entity : Entity) : EmittedFile :=
  ⟨(entityFile options entity).1, (entityFile options entity).2, .entity entity.schemaName⟩

theorem emitted_ofEntity (options : Options) (entity : Entity) :
    (Offer.ofEntity options entity).emitted = [ownFile options entity] := rfl

theorem atStem_of_entity {options : Options} {entity : Entity}
    (hname : Entity.stripSuffix? entity.schemaName = some entity.name) :
    ∀ file ∈ (Offer.ofEntity options entity).emitted,
      AtStem options file ∧ file.owner = .entity entity.schemaName := by
  rw [emitted_ofEntity, List.forall_mem_singleton]
  refine ⟨⟨EntityFile.stem entity.name, ?_, rfl⟩, rfl⟩
  simp [ownFile, Item.stems, hname]

def mainRouterFile (options : Options) (modules : List ModuleRoutes) (mounted : List String) :
    List EmittedFile :=
  if options.artifacts.routes && !modules.isEmpty then
    [⟨options.fileName mainRouterStem, (MainRouter.ofModules mounted).text, .mainRouter⟩]
  else []

def entityIndexFile (options : Options) (entities exported : List Entity) : List EmittedFile :=
  if entities.isEmpty then []
  else [⟨options.fileName entityIndexStem,
    EntityIndex.text (EntityIndex.ofEntities options.entities.exportForm exported), .entityIndex⟩]

/-- Which modules and entities are emitted, and that the output holds their files, the two that sum
them up, and a failure for each of the others. -/
structure Settles (options : Options) (modules : List ModuleRoutes) (entities : List Entity)
    (output : Output) (mounted skipped : List ModuleRoutes) (exported dropped : List Entity) :
    Prop where
  modulePartition : (mounted ++ skipped).Perm modules
  moduleOrder : mounted.Sublist modules
  entityPartition : (exported ++ dropped).Perm entities
  entityOrder : exported.Sublist entities
  files : output.files =
    (mounted.flatMap fun module => (Offer.ofModule options module).emitted)
      ++ mainRouterFile options modules (mounted.map ModuleRoutes.module)
      ++ (exported.flatMap fun entity => (Offer.ofEntity options entity).emitted)
      ++ entityIndexFile options entities exported
  failures : output.failures.map ItemFailure.item =
    (skipped.map fun module => .module module.module)
      ++ dropped.map fun entity => .entity entity.schemaName
  written : ∀ module ∈ mounted, ∃ batch, moduleFiles options module = .ok batch
  paths : output.paths.Nodup
  moduleIdentifiers : (mounted.map fun module => Naming.moduleIdentifier module.module).Nodup
  entityIdentifiers : (exported.map fun entity => Naming.typeIdentifier entity.name).Nodup

theorem exists_emitModules (options : Options) (modules : List ModuleRoutes) :
    ∃ mounted skipped, ∃ progress : Progress String,
      Passes (Offer.ofModule options) ModuleRoutes.module modules mounted skipped { output := {} }
        progress ∧
      (∀ file ∈ progress.output.files, AtStem options file ∧ file.owner.family = .module) ∧
      (emitModules options modules {}).value.paths.Nodup ∧
      (emitModules options modules {}).value =
        { progress.output with
          files := progress.output.files
            ++ mainRouterFile options modules (mounted.map ModuleRoutes.module) } := by
  obtain ⟨mounted, skipped, h⟩ := exists_passes (Offer.ofModule options) ModuleRoutes.module modules
    { output := {} }
  have hvalue := value_emitModules options modules {}
  generalize Progress.turns (Offer.ofModule options) ModuleRoutes.module modules
    { output := {} } = progress at h hvalue
  dsimp only at hvalue
  have hfiles : ∀ file ∈ progress.output.files,
      AtStem options file ∧ file.owner.family = .module := by
    refine h.forall_files (by simp) fun module _ file hf => ?_
    obtain ⟨hstem, howner⟩ := atStem_of_module file hf
    exact ⟨hstem, by rw [howner]; rfl⟩
  have hemitted : progress.emitted = mounted.map ModuleRoutes.module := by simpa using h.emitted
  have hpaths : progress.output.paths.Nodup := h.paths List.nodup_nil
  refine ⟨mounted, skipped, progress, h, hfiles, ?_, ?_⟩
  · rw [hvalue]
    split
    · exact Output.nodup_paths_insertAll hpaths
    · exact hpaths
  · rw [hvalue, hemitted, mainRouterFile]
    split
    · have hmain : mainRouterStem ∈ Item.mainRouter.stems := List.mem_singleton.mpr rfl
      refine value_insertAll_new hmain (fun file hf => ?_) _
      obtain ⟨hstem, hfamily⟩ := hfiles file hf
      exact ⟨hstem, by rw [hfamily]; decide⟩
    · simp

theorem exists_emitEntities {options : Options} {entities : List Entity}
    (hnames : ∀ entity ∈ entities, Entity.stripSuffix? entity.schemaName = some entity.name)
    {output : Output}
    (h : ∀ file ∈ output.files, AtStem options file ∧ file.owner.family ≠ .entityIndex)
    (hn : output.paths.Nodup) :
    ∃ exported dropped, ∃ progress : Progress Entity,
      Passes (Offer.ofEntity options) id entities exported dropped { output := output } progress ∧
      (emitEntities options entities output).value.paths.Nodup ∧
      (emitEntities options entities output).value =
        { progress.output with
          files := progress.output.files ++ entityIndexFile options entities exported } := by
  obtain ⟨exported, dropped, hp⟩ := exists_passes (Offer.ofEntity options) id entities
    { output := output }
  have hvalue := value_emitEntities options entities output
  generalize Progress.turns (Offer.ofEntity options) id entities { output := output } = progress
    at hp hvalue
  dsimp only at hvalue
  have hfiles : ∀ file ∈ progress.output.files,
      AtStem options file ∧ file.owner.family ≠ .entityIndex := by
    refine hp.forall_files h fun entity he file hf => ?_
    obtain ⟨hstem, howner⟩ := atStem_of_entity (hnames entity (hp.order.subset he)) file hf
    exact ⟨hstem, by rw [howner]; exact PathFamily.noConfusion⟩
  have hemitted : progress.emitted = exported := by simpa using hp.emitted
  have hpaths : progress.output.paths.Nodup := hp.paths hn
  refine ⟨exported, dropped, progress, hp, ?_, ?_⟩
  · rw [hvalue]
    split
    · exact hpaths
    · exact Output.nodup_paths_insertAll hpaths
  · rw [hvalue, hemitted, entityIndexFile]
    split
    · simp
    · have hindex : entityIndexStem ∈ Item.entityIndex.stems := List.mem_singleton.mpr rfl
      exact value_insertAll_new hindex hfiles _

theorem atStem_of_mainRouterFile {options : Options} {modules : List ModuleRoutes}
    {mounted : List String} : ∀ file ∈ mainRouterFile options modules mounted,
      AtStem options file ∧ file.owner = .mainRouter := by
  unfold mainRouterFile
  split
  · rw [List.forall_mem_singleton]
    exact ⟨⟨mainRouterStem, List.mem_singleton.mpr rfl, rfl⟩, rfl⟩
  · simp

theorem atStem_of_entityIndexFile {options : Options} {entities exported : List Entity} :
    ∀ file ∈ entityIndexFile options entities exported,
      AtStem options file ∧ file.owner = .entityIndex := by
  unfold entityIndexFile
  split
  · simp
  · rw [List.forall_mem_singleton]
    exact ⟨⟨entityIndexStem, List.mem_singleton.mpr rfl, rfl⟩, rfl⟩

theorem exists_settles {options : Options} {modules : List ModuleRoutes} {entities : List Entity}
    (hnames : ∀ entity ∈ entities, Entity.stripSuffix? entity.schemaName = some entity.name) :
    ∃ mounted skipped exported dropped,
      Settles options modules entities (emitAll options modules entities).value mounted skipped
        exported dropped := by
  obtain ⟨mounted, skipped, passed, hm, hfiles, hn, hmodules⟩ := exists_emitModules options modules
  -- the index has a path of its own also among the files of modules
  have hbefore : ∀ file ∈ (emitModules options modules {}).value.files,
      AtStem options file ∧ file.owner.family ≠ .entityIndex := by
    rw [hmodules]
    intro file hf
    rcases List.mem_append.mp hf with hf | hf
    · obtain ⟨hstem, hfamily⟩ := hfiles file hf
      exact ⟨hstem, by rw [hfamily]; decide⟩
    · obtain ⟨hstem, howner⟩ := atStem_of_mainRouterFile file hf
      exact ⟨hstem, by rw [howner]; decide⟩
  obtain ⟨exported, dropped, progress, he, hpaths, hentities⟩ :=
    exists_emitEntities hnames hbefore hn
  refine ⟨mounted, skipped, exported, dropped, ?_⟩
  rw [value_emitAll]
  rw [hentities] at hpaths ⊢
  exact {
    modulePartition := hm.partition
    moduleOrder := hm.order
    entityPartition := he.partition
    entityOrder := he.order
    files := by
      simp only [he.files, hmodules, hm.files]
      simp
    failures := by
      simp only [he.failures, hmodules, hm.failures]
      simp
      rfl
    written := hm.written
    paths := hpaths
    moduleIdentifiers := by
      have h := hm.identifiers (by simp)
      rw [hm.taken] at h
      simpa [Offer.ofModule] using h
    entityIdentifiers := by
      have h := he.identifiers (by simp)
      rw [he.taken] at h
      simpa [Offer.ofEntity] using h }

/-- A run that ends well takes up modules and entities, and settles each of them. -/
theorem exists_settles_of_run {options : Options} {doc : Document} {output : Output}
    (hr : (run options doc).outcome = .ok output) :
    ∃ modules entities mounted skipped exported dropped, Selects options doc modules entities ∧
      Settles options modules entities output mounted skipped exported dropped := by
  obtain ⟨modules, entities, hs, rfl⟩ := exists_selects hr
  obtain ⟨mounted, skipped, exported, dropped, h⟩ := exists_settles hs.schemaNames.2
  exact ⟨modules, entities, mounted, skipped, exported, dropped, hs, h⟩

end Generation
end OpenApiGen
