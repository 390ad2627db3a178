import OpenApiGen.Proofs.ItemOutcomes

/-! # The main router and the entity index name exactly what is emitted -/

namespace OpenApiGen

theorem eq_filter_of_sublist {α : Type} {P : α → Bool} {kept items : List α}
    (h : kept.Sublist items) (hn : items.Nodup) (hkept : ∀ x ∈ items, P x ↔ x ∈ kept) :
    kept = items.filter P := by
  have hself : kept.filter P = kept :=
    List.filter_eq_self.mpr fun x hx => (hkept x (h.subset hx)).mpr hx
  have hsub : kept.Sublist (items.filter P) := hself ▸ h.filter P
  have hperm : kept.Perm (items.filter P) := by
    refine (List.perm_ext_iff_of_nodup (hn.sublist h) (hn.filter P)).mpr fun x => ?_
    rw [List.mem_filter]
    exact ⟨fun hx => ⟨h.subset hx, (hkept x (h.subset hx)).mpr hx⟩,
      fun ⟨hx, hp⟩ => (hkept x hx).mp hp⟩
  exact hsub.eq_of_length hperm.length_eq

/-- The statements of a router import and register these modules and no others, each under a name of
its own. -/
structure MainRouter.Mounts (router : MainRouter) (modules : List String) : Prop where
  imports : Source.imports router.source = (modules.map fun module =>
    ⟨false, .default (ModuleRouter.routerName module), "@" ++ module ++ "/index.routes.js"⟩)
      ++ [pluginImport]
  mounts : Source.calls router.source =
    modules.map fun module => .mount ⟨ModuleRouter.routerName module, "/" ++ module⟩
  names : (Import.localNames (Source.imports router.source)).Nodup

theorem ModuleRouter.routerName_inj {module module' : String} :
    routerName module = routerName module' ↔
      Naming.moduleIdentifier module = Naming.moduleIdentifier module' :=
  String.append_left_inj _

theorem ModuleRouter.getLast?_routerName (module : String) :
    (routerName module).toList.getLast? = some 'r' :=
  getLast?_append _ (by decide)

theorem ModuleRouter.routerName_ne_plugin (module : String) :
    routerName module ≠ "FastifyPluginAsyncZod" := by
  intro h
  have hlast := getLast?_routerName module
  rw [h] at hlast
  exact absurd hlast (by decide)

theorem MainRouter.localNames_ofModules (modules : List String) :
    Import.localNames (ofModules modules).imports =
      modules.map ModuleRouter.routerName ++ ["FastifyPluginAsyncZod"] := by
  rw [List.map_eq_flatMap]
  simp [Import.localNames, ofModules, List.flatMap_map, ImportClause.localNames, pluginImport]

theorem MainRouter.mounts_ofModules {modules : List String}
    (h : (modules.map Naming.moduleIdentifier).Nodup) : (ofModules modules).Mounts modules where
  imports := imports_source _
  mounts := by
    rw [calls_source, ofModules, List.map_map]
    rfl
  names := by
    have hrouters : (modules.map ModuleRouter.routerName).Nodup := by
      have hpairs := List.pairwise_map.mp h
      refine List.pairwise_map.mpr (hpairs.imp fun hne he => hne ?_)
      exact ModuleRouter.routerName_inj.mp he
    rw [imports_source, localNames_ofModules, List.nodup_append]
    refine ⟨hrouters, by simp, ?_⟩
    rintro name hm _ hp rfl
    obtain ⟨module, -, hmodule⟩ := List.mem_map.mp hm
    exact ModuleRouter.routerName_ne_plugin module (hmodule.trans (List.mem_singleton.mp hp))

namespace Generation

variable {options : Options} {doc : Document} {modules mounted skipped : List ModuleRoutes}
  {entities exported dropped : List Entity} {output : Output}

theorem exists_router_of_moduleFiles (hroutes : options.artifacts.routes) {module : ModuleRoutes}
    {batch : List (String × String)} (h : moduleFiles options module = .ok batch) :
    ∃ content, (options.fileName (routerStem module.module), content) ∈ batch := by
  obtain ⟨handlers, -, -, hbatch⟩ := exists_handlers_of_moduleFiles h
  exact ⟨_, (hbatch _ _).mpr (.router hroutes)⟩

theorem Selects.declaredIn (h : Selects options doc modules entities) :
    ∀ offer ∈ offers options modules entities, offer.item.DeclaredIn doc := by
  intro offer ho
  rcases List.mem_append.mp ho with ho | ho
  · obtain ⟨module, hm, rfl⟩ := List.mem_map.mp ho
    exact h.names_sublist.subset (List.mem_map_of_mem hm)
  · obtain ⟨entity, he, rfl⟩ := List.mem_map.mp ho
    exact h.schemaNames.1.subset (List.mem_map_of_mem he)

namespace Settles

variable (h : Settles options modules entities output mounted skipped exported dropped)
include h

theorem atStem (hs : Selects options doc modules entities) :
    ∀ file ∈ output.files, AtStem options file := by
  intro file hf
  rcases h.mem_files.mp hf with ⟨offer, ho, hf⟩ | hf | hf
  · rcases List.mem_append.mp ho with ho | ho
    · obtain ⟨module, -, rfl⟩ := List.mem_map.mp ho
      exact (atStem_of_module file hf).1
    · obtain ⟨entity, he, rfl⟩ := List.mem_map.mp ho
      exact (atStem_of_entity (hs.schemaNames.2 entity (h.entityOrder.subset he)) file hf).1
  · exact (atStem_of_mainRouterFile file hf).1
  · exact (atStem_of_entityIndexFile file hf).1

/-- What the owner of a file tells about it. -/
theorem mem_of_owner {file : EmittedFile} (hf : file ∈ output.files) :
    (∀ name, file.owner = .module name → name ∈ mounted.map ModuleRoutes.module) ∧
      ∀ schemaName, file.owner = .entity schemaName →
        ∃ entity ∈ exported, entity.schemaName = schemaName ∧ file = ownFile options entity := by
  refine ⟨fun name howner => ?_, fun schemaName howner => ?_⟩
  · obtain ⟨module, hm, rfl, -⟩ := h.mem_files_of_module.mp ⟨hf, howner⟩
    exact List.mem_map_of_mem hm
  · obtain ⟨offer, ho, hitem, hemitted⟩ :=
      h.exists_offer hf (howner ▸ Item.noConfusion) (howner ▸ Item.noConfusion)
    rw [howner] at hitem
    rcases List.mem_append.mp ho with ho | ho
    · obtain ⟨module, -, rfl⟩ := List.mem_map.mp ho
      cases hitem
    · obtain ⟨entity, he, rfl⟩ := List.mem_map.mp ho
      exact ⟨entity, he, Item.entity.inj hitem, List.mem_singleton.mp hemitted⟩

theorem declaredIn (hs : Selects options doc modules entities) :
    ∀ file ∈ output.files, file.owner.DeclaredIn doc := by
  intro file hf
  rcases h.mem_files.mp hf with ⟨offer, ho, hf⟩ | hf | hf
  · rw [Offer.owner_of_emitted file hf]
    exact hs.declaredIn offer (h.mem_offers.mpr (.inl ho))
  · rw [(atStem_of_mainRouterFile file hf).2]
    trivial
  · rw [(atStem_of_entityIndexFile file hf).2]
    trivial

/-- The router of a module is in the output where the module was mounted. -/
theorem router_mem_paths_iff (hs : Selects options doc modules entities)
    (hroutes : options.artifacts.routes) {name : String} (hn : name ∈ doc.modules) :
    options.fileName (routerStem name) ∈ output.paths ↔
      name ∈ mounted.map ModuleRoutes.module := by
  constructor
  · intro hp
    -- whoever owns the file has it where only the files of this module are
    obtain ⟨file, hf, hpath⟩ := Output.mem_paths.mp hp
    obtain ⟨stem, hstem, hpath'⟩ := h.atStem hs file hf
    have heq : stem = routerStem name := Options.fileName_inj.mp (hpath'.symm.trans hpath)
    have hrouter : stem ∈ (Item.module name).stems := by simp [heq, Item.stems, moduleStems]
    rcases Item.eq_or_entities_of_stem (b := .module name) (h.declaredIn hs file hf) hn hstem
      hrouter with howner | ⟨-, hfamily⟩
    · exact (h.mem_of_owner hf).1 name howner
    · cases hfamily
  · intro hmounted
    obtain ⟨module, hm, rfl⟩ := List.mem_map.mp hmounted
    obtain ⟨batch, hbatch⟩ := h.written module hm
    obtain ⟨content, hentry⟩ := exists_router_of_moduleFiles hroutes hbatch
    have hfiles : (Offer.ofModule options module).files = .ok batch := hbatch
    exact Output.mem_paths.mpr ⟨_, h.mem_files.mpr (.inl ⟨.ofModule options module,
      List.mem_append_left _ (List.mem_map_of_mem hm), Offer.mem_emitted hfiles hentry⟩), rfl⟩

theorem mounted_eq_filter (hs : Selects options doc modules entities)
    (hroutes : options.artifacts.routes) :
    mounted.map ModuleRoutes.module =
      doc.modules.filter fun name => options.fileName (routerStem name) ∈ output.paths := by
  have hsub := (h.moduleOrder.map ModuleRoutes.module).trans hs.names_sublist
  refine eq_filter_of_sublist hsub doc.nodup_modules fun name hn => ?_
  rw [decide_eq_true_iff]
  exact h.router_mem_paths_iff hs hroutes hn

/-- Where there are modules, the main router is emitted, and mounts those whose routers are. -/
theorem exists_mainRouter (hs : Selects options doc modules entities)
    (hroutes : options.artifacts.routes) (hne : doc.modules ≠ []) : ∃ router : MainRouter,
      ⟨options.fileName mainRouterStem, router.text, .mainRouter⟩ ∈ output.files ∧
      router.Mounts
        (doc.modules.filter fun name => options.fileName (routerStem name) ∈ output.paths) := by
  refine ⟨MainRouter.ofModules (mounted.map ModuleRoutes.module), h.mem_files.mpr ?_, ?_⟩
  · have hmodules : modules ≠ [] := by
      rintro rfl
      exact hne (hs.names (by simp [Artifacts.hasModuleFiles, hroutes])).symm
    simp [mainRouterFile, hroutes, hmodules]
  · rw [← h.mounted_eq_filter hs hroutes]
    refine MainRouter.mounts_ofModules ?_
    rw [List.map_map]
    exact h.moduleIdentifiers

end Settles

end Generation
end OpenApiGen
