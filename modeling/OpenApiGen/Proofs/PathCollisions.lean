import OpenApiGen.Proofs.Aggregates

/-!
# Which paths can collide

Items of different families never ask for one path, and neither do two modules. Every failure of a
run is the refusal of an item at its turn, after the items before it; so it can be told for each one
why the item was refused, and where that was for a path, both items were entities.
-/

namespace OpenApiGen

/-- The paths that an item asks for. -/
def Item.paths (options : Options) (item : Item) : List String := item.stems.map options.fileName

theorem Item.mem_paths_iff {options : Options} {item : Item} {stem : String} :
    options.fileName stem ∈ item.paths options ↔ stem ∈ item.stems := by
  rw [paths, List.mem_map]
  constructor
  · rintro ⟨stem', hstem, heq⟩
    exact Options.fileName_inj.mp heq ▸ hstem
  · intro hstem
    exact ⟨stem, hstem, rfl⟩

namespace EntityFile

theorem stem_inj {name name' : String} :
    stem name = stem name' ↔ Unicode.lowercase name = Unicode.lowercase name' := by
  rw [stem, stem]
  exact String.append_left_inj _

end EntityFile

/-- Two schemas of entities that are called alike, but for the case of letters. -/
def SameLowercase (schemaName schemaName' : String) : Prop :=
  ∃ name name', Entity.stripSuffix? schemaName = some name ∧
    Entity.stripSuffix? schemaName' = some name' ∧
    Unicode.lowercase name = Unicode.lowercase name'

/-- Items of a document that ask for one path are the same, or entities whose names differ in the
case of letters alone. -/
theorem Item.eq_or_sameLowercase {options : Options} {doc : Document} {a b : Item}
    (ha : a.DeclaredIn doc) (hb : b.DeclaredIn doc) {path : String} (hpa : path ∈ a.paths options)
    (hpb : path ∈ b.paths options) :
    a = b ∨ ∃ schemaName schemaName', a = .entity schemaName ∧ b = .entity schemaName' ∧
      SameLowercase schemaName schemaName' := by
  obtain ⟨stem, hstem, rfl⟩ := List.mem_map.mp hpa
  rw [mem_paths_iff] at hpb
  rcases eq_or_entities_of_stem ha hb hstem hpb with heq | ⟨hfa, hfb⟩
  · exact .inl heq
  · right
    cases a with
    | entity schemaName =>
      cases b with
      | entity schemaName' =>
        simp only [stems, Option.mem_toList, Option.map_eq_some_iff] at hstem hpb
        obtain ⟨name, hname, rfl⟩ := hstem
        obtain ⟨name', hname', hstem⟩ := hpb
        exact ⟨_, _, rfl, rfl, name, name', hname, hname', EntityFile.stem_inj.mp hstem.symm⟩
      | _ => cases hfb
    | _ => cases hfa

namespace Output

theorem insertAll_eq_true_iff {output : Output} {item : Item} {batch : List (String × String)} :
    (output.insertAll item batch).value.2 = true ↔ output.conflict? item [] batch = none := by
  unfold insertAll
  cases output.conflict? item [] batch <;> simp

theorem conflict?_singleton {output : Output} {item : Item} {path content : String}
    {failure : Failure} (h : output.conflict? item [] [(path, content)] = some failure) :
    ∃ file ∈ output.files, file.path = path ∧
      failure = .namingCollision path file.owner.text item.text := by
  simp only [conflict?, List.contains_nil, Bool.false_eq_true, if_false] at h
  cases hfile : output.file? path with
  | none => simp [hfile] at h
  | some file =>
    rw [hfile] at h
    refine ⟨file, List.mem_of_find?_eq_some hfile, ?_, (Option.some.inj h).symm⟩
    simpa using List.find?_some hfile

end Output

namespace Generation

/-! ## Refusals at the turns of a pass -/

section

variable {α β : Type} {offer : β → Offer} {key : β → α}

theorem Progress.failures_turn {progress : Progress α} {x : Offer} {a : α} {failure : ItemFailure}
    (h : failure ∈ (progress.turn x a).output.failures) :
    failure ∈ progress.output.failures ∨
      failure.item = x.item ∧ x.refusal? progress.taken progress.output = some failure.failure := by
  unfold turn at h
  cases hr : x.refusal? progress.taken progress.output with
  | none =>
    rw [hr] at h
    exact .inl h
  | some reason =>
    rw [hr] at h
    apply (List.mem_append.mp h).imp_right
    intro hnew
    rw [List.mem_singleton.mp hnew]
    exact ⟨rfl, rfl⟩

/-- A failure was there before, or is the refusal of an item after the turns of those before it. -/
theorem Progress.exists_refusal {items : List β} {start : Progress α} {failure : ItemFailure}
    (h : failure ∈ (start.turns offer key items).output.failures) :
    failure ∈ start.output.failures ∨ ∃ before x after, items = before ++ x :: after ∧
      failure.item = (offer x).item ∧
      (offer x).refusal? (start.turns offer key before).taken
        (start.turns offer key before).output = some failure.failure := by
  induction items generalizing start with
  | nil => exact .inl h
  | cons y items ih =>
    have hturns : failure ∈ ((start.turn (offer y) (key y)).turns offer key items).output.failures :=
      h
    rcases ih hturns with hy | ⟨before, x, after, rfl, hitem, hx⟩
    · apply (failures_turn hy).imp_right
      rintro ⟨hitem, hrefusal⟩
      exact ⟨[], y, items, rfl, hitem, hrefusal⟩
    · exact .inr ⟨y :: before, x, after, rfl, hitem, hx⟩

/-- An identifier was taken before, or by one of the items. -/
theorem Progress.exists_taker {items : List β} {start : Progress α} {entry : String × Item}
    (h : entry ∈ (start.turns offer key items).taken) :
    entry ∈ start.taken ∨ ∃ x ∈ items, entry = ((offer x).identifier, (offer x).item) := by
  induction items generalizing start with
  | nil => exact .inl h
  | cons y items ih =>
    have hturns : entry ∈ ((start.turn (offer y) (key y)).turns offer key items).taken := h
    rcases ih hturns with hy | ⟨x, hx, rfl⟩
    · unfold turn at hy
      cases hr : (offer y).refusal? start.taken start.output with
      | some reason =>
        rw [hr] at hy
        exact .inl hy
      | none =>
        rw [hr] at hy
        apply (List.mem_append.mp hy).imp_right
        intro hnew
        exact ⟨y, List.mem_cons_self .., List.mem_singleton.mp hnew⟩
    · exact .inr ⟨x, List.mem_cons_of_mem _ hx, rfl⟩

theorem takenBy?_eq_some {taken : TakenNames} {identifier : String} {item : Item}
    {failure : Failure} (h : takenBy? taken identifier item = some failure) :
    ∃ first, (identifier, first) ∈ taken ∧
      failure = .namingCollision identifier first.text item.text := by
  obtain ⟨first, hfirst, rfl⟩ := Option.map_eq_some_iff.mp h
  exact ⟨first, KeyedList.mem_of_find? hfirst, rfl⟩

/-- An item is refused for its identifier, for what it cannot write, or for a path. -/
theorem Offer.refusal?_eq_some {offer : Offer} {taken : TakenNames} {output : Output}
    {failure : Failure} (h : offer.refusal? taken output = some failure) :
    (∃ first, (offer.identifier, first) ∈ taken ∧
      failure = .namingCollision offer.identifier first.text offer.item.text) ∨
    offer.identifier ∉ KeyedList.keys taken ∧ (offer.files = .error failure ∨
      ∃ batch, offer.files = .ok batch ∧ output.conflict? offer.item [] batch = some failure) := by
  unfold refusal? at h
  cases htaken : takenBy? taken offer.identifier offer.item with
  | some reason =>
    rw [htaken] at h
    cases h
    exact .inl (takenBy?_eq_some htaken)
  | none =>
    have hfree : offer.identifier ∉ KeyedList.keys taken := by
      rw [← KeyedList.find?_eq_none_iff]
      exact Option.map_eq_none_iff.mp htaken
    rw [htaken] at h
    cases hfiles : offer.files with
    | error reason =>
      rw [hfiles] at h
      cases h
      exact .inr ⟨hfree, .inl rfl⟩
    | ok batch =>
      rw [hfiles] at h
      exact .inr ⟨hfree, .inr ⟨batch, rfl, h⟩⟩

/-- Where nothing was taken at the start, an identifier is taken by one of the items before. -/
theorem Progress.refusal?_turns_eq_some {before : List β} {start : Progress α}
    (hstart : start.taken = []) {x : Offer} {failure : Failure}
    (h : x.refusal? (start.turns offer key before).taken (start.turns offer key before).output =
      some failure) :
    (∃ first ∈ before, (offer first).identifier = x.identifier ∧
      failure = .namingCollision x.identifier (offer first).item.text x.item.text) ∨
    x.identifier ∉ KeyedList.keys (start.turns offer key before).taken ∧
      (x.files = .error failure ∨ ∃ batch, x.files = .ok batch ∧
        (start.turns offer key before).output.conflict? x.item [] batch = some failure) := by
  apply (Offer.refusal?_eq_some h).imp_left
  rintro ⟨item, htaken, rfl⟩
  rcases exists_taker htaken with hnone | ⟨first, hfirst, hentry⟩
  · rw [hstart] at hnone
    cases hnone
  · obtain ⟨hidentifier, rfl⟩ := Prod.mk.inj hentry
    exact ⟨first, hfirst, hidentifier.symm, rfl⟩

end

/-! ## The batch of a module -/

theorem map_fst_fileIf_sublist (enabled : Bool) (path content : String) :
    ((fileIf enabled path content).map Prod.fst).Sublist [path] := by
  cases enabled <;> simp [fileIf]

variable {options : Options} {doc : Document} {modules : List ModuleRoutes}
  {entities : List Entity} {output : Output}

/-- A module has each of its files once at most. -/
theorem nodup_paths_of_moduleFiles {module : ModuleRoutes} {batch : List (String × String)}
    (h : moduleFiles options module = .ok batch) : (batch.map Prod.fst).Nodup := by
  have hsub : (batch.map Prod.fst).Sublist
      ((moduleStems module.module).map options.fileName) := by
    obtain ⟨handlers, service, -, hservice, rfl⟩ := exists_batch_of_moduleFiles h
    simp only [List.map_append]
    exact (((map_fst_fileIf_sublist ..).append (map_fst_fileIf_sublist ..)).append
      hservice.paths_sublist).append
      (map_fst_fileIf_sublist ..)
  have hinj : Function.Injective options.fileName := fun _ _ heq => Options.fileName_inj.mp heq
  exact ((nodup_moduleStems module.module).map hinj).sublist hsub

/-- A path of an item is free where all files belong to other items, and not both to entities. -/
theorem not_mem_paths_of_apart {item : Item} (hitem : item.DeclaredIn doc) {path : String}
    (hpath : path ∈ item.paths options)
    (h : ∀ file ∈ output.files, AtStem options file ∧ file.owner.DeclaredIn doc ∧
      file.owner ≠ item ∧ (item.family = .entity → file.owner.family ≠ .entity)) :
    path ∉ output.paths := by
  intro hmem
  obtain ⟨file, hf, rfl⟩ := Output.mem_paths.mp hmem
  obtain ⟨⟨stem, hstem, heq⟩, hdeclared, hne, hfamily⟩ := h file hf
  have howner : file.path ∈ file.owner.paths options := heq ▸ List.mem_map_of_mem hstem
  rcases Item.eq_or_sameLowercase hdeclared hitem howner hpath with
    hsame | ⟨schemaName, schemaName', hentity, rfl, -⟩
  · exact hne hsame
  · exact hfamily rfl (by rw [hentity]; rfl)

/-- The files after the turns of some modules are theirs. -/
theorem forall_files_of_modules (before : List ModuleRoutes) :
    ∀ file ∈ (Progress.turns (Offer.ofModule options) ModuleRoutes.module before
        { output := {} }).output.files,
      AtStem options file ∧ ∃ module ∈ before, file.owner = .module module.module := by
  obtain ⟨mounted, skipped, hp⟩ := exists_passes (Offer.ofModule options) ModuleRoutes.module
    before { output := {} }
  refine hp.forall_files (by simp) fun module hm file hf => ?_
  obtain ⟨hstem, howner⟩ := atStem_of_module file hf
  exact ⟨hstem, module, hp.order.subset hm, howner⟩

/-- Whatever the modules before it came to, the batch of a module is free. -/
theorem conflict?_module_eq_none {before after : List ModuleRoutes} {module : ModuleRoutes}
    (hnames : ((before ++ module :: after).map ModuleRoutes.module).Nodup)
    (hdeclared : ∀ other ∈ before ++ module :: after, other.module ∈ doc.modules)
    {batch : List (String × String)} (hbatch : moduleFiles options module = .ok batch) :
    (Progress.turns (Offer.ofModule options) ModuleRoutes.module before
      { output := {} }).output.conflict? (.module module.module) [] batch = none := by
  rw [Output.conflict?_eq_none_iff]
  refine ⟨nodup_paths_of_moduleFiles hbatch, fun path hpath => ⟨List.not_mem_nil, ?_⟩⟩
  obtain ⟨entry, he, rfl⟩ := List.mem_map.mp hpath
  obtain ⟨stem, hstem, heq⟩ := path_of_moduleFiles hbatch entry he
  have hown : entry.1 ∈ (Item.module module.module).paths options :=
    heq ▸ List.mem_map_of_mem hstem
  have hitem : (Item.module module.module).DeclaredIn doc := hdeclared module (by simp)
  refine not_mem_paths_of_apart hitem hown fun file hf => ?_
  obtain ⟨hat, other, hother, howner⟩ := forall_files_of_modules before file hf
  refine ⟨hat, ?_, fun hsame => ?_, nofun⟩
  · rw [howner]
    exact hdeclared other (List.mem_append_left _ hother)
  · rw [howner] at hsame
    rw [List.map_append, List.nodup_append] at hnames
    exact hnames.2.2 _ (List.mem_map_of_mem hother) _
      (List.mem_map_of_mem (List.mem_cons_self ..)) (Item.module.inj hsame)

theorem conflict?_mainRouter_eq_none (modules : List ModuleRoutes) (content : String) :
    (Progress.turns (Offer.ofModule options) ModuleRoutes.module modules
      { output := {} }).output.conflict? .mainRouter []
        [(options.fileName mainRouterStem, content)] = none := by
  have hmain : mainRouterStem ∈ Item.mainRouter.stems := List.mem_singleton.mpr rfl
  have hapart : ∀ file ∈ (Progress.turns (Offer.ofModule options) ModuleRoutes.module modules
      { output := {} }).output.files,
        AtStem options file ∧ file.owner.family ≠ Item.mainRouter.family := by
    intro file hf
    obtain ⟨hat, module, -, howner⟩ := forall_files_of_modules modules file hf
    exact ⟨hat, by rw [howner]; exact PathFamily.noConfusion⟩
  simp [Output.conflict?_eq_none_iff, fileName_not_mem_paths hmain hapart]

/-- Before the entities have their turns, no file is one of theirs. -/
theorem forall_files_emitModules (modules : List ModuleRoutes) :
    ∀ file ∈ (emitModules options modules {}).value.files, AtStem options file ∧
      file.owner.family ∈ [.module, .mainRouter] := by
  have hturns : ∀ file ∈ (Progress.turns (Offer.ofModule options) ModuleRoutes.module modules
      { output := {} }).output.files, AtStem options file ∧
        file.owner.family ∈ [.module, .mainRouter] := by
    intro file hf
    obtain ⟨hat, module, -, howner⟩ := forall_files_of_modules modules file hf
    exact ⟨hat, by rw [howner]; exact List.mem_cons_self ..⟩
  rw [value_emitModules]
  dsimp only
  split
  · apply Output.forall_insertAll hturns
    rw [List.forall_mem_singleton]
    refine ⟨⟨mainRouterStem, List.mem_singleton.mpr rfl, rfl⟩, ?_⟩
    simp [Item.family]
  · exact hturns

theorem failures_emitModules (modules : List ModuleRoutes) :
    (emitModules options modules {}).value.failures =
      (Progress.turns (Offer.ofModule options) ModuleRoutes.module modules
        { output := {} }).output.failures := by
  rw [value_emitModules]
  dsimp only
  split
  · rw [Output.insertAll, conflict?_mainRouter_eq_none]
    rfl
  · rfl

/-! ## The turns of entities -/

/-- A file before the turn of an entity is none of theirs, or that of an entity whose identifier is
taken. -/
theorem forall_files_of_entities {before : List Entity}
    (hnames : ∀ entity ∈ before, Entity.stripSuffix? entity.schemaName = some entity.name) :
    ∀ file ∈ (Progress.turns (Offer.ofEntity options) id before
        { output := (emitModules options modules {}).value }).output.files,
      AtStem options file ∧ (file.owner.family ∈ [.module, .mainRouter] ∨
        ∃ entity ∈ before, file = ownFile options entity ∧ Naming.typeIdentifier entity.name ∈
          KeyedList.keys (Progress.turns (Offer.ofEntity options) id before
            { output := (emitModules options modules {}).value }).taken) := by
  obtain ⟨kept, left, hp⟩ := exists_passes (Offer.ofEntity options) id before
    { output := (emitModules options modules {}).value }
  refine hp.forall_files (fun file hf => ?_) fun entity he file hf => ?_
  · obtain ⟨hat, hfamily⟩ := forall_files_emitModules modules file hf
    exact ⟨hat, .inl hfamily⟩
  · have hbefore := hp.order.subset he
    refine ⟨(atStem_of_entity (hnames entity hbefore) file hf).1, .inr ⟨entity, hbefore, ?_, ?_⟩⟩
    · exact List.mem_singleton.mp hf
    · rw [hp.taken]
      exact List.mem_append_right _ (List.mem_map_of_mem (f := fun x =>
        (Offer.ofEntity options x).identifier) he)

theorem conflict?_entityIndex_eq_none
    (hnames : ∀ entity ∈ entities, Entity.stripSuffix? entity.schemaName = some entity.name)
    (content : String) : (Progress.turns (Offer.ofEntity options) id entities
      { output := (emitModules options modules {}).value }).output.conflict? .entityIndex []
        [(options.fileName entityIndexStem, content)] = none := by
  have hindex : entityIndexStem ∈ Item.entityIndex.stems := List.mem_singleton.mpr rfl
  have hapart : ∀ file ∈ (Progress.turns (Offer.ofEntity options) id entities
      { output := (emitModules options modules {}).value }).output.files,
        AtStem options file ∧ file.owner.family ≠ Item.entityIndex.family := by
    intro file hf
    obtain ⟨hat, hfamily | ⟨entity, -, rfl, -⟩⟩ := forall_files_of_entities hnames file hf
    · refine ⟨hat, fun hsame => ?_⟩
      rw [hsame] at hfamily
      exact absurd hfamily (by decide)
    · exact ⟨hat, PathFamily.noConfusion⟩
  simp [Output.conflict?_eq_none_iff, fileName_not_mem_paths hindex hapart]

theorem failures_emitEntities
    (hnames : ∀ entity ∈ entities, Entity.stripSuffix? entity.schemaName = some entity.name) :
    (emitEntities options entities (emitModules options modules {}).value).value.failures =
      (Progress.turns (Offer.ofEntity options) id entities
        { output := (emitModules options modules {}).value }).output.failures := by
  rw [value_emitEntities]
  dsimp only
  split
  · rfl
  · rw [Output.insertAll, conflict?_entityIndex_eq_none hnames]
    rfl

/-- Why a module or an entity is left out. A file is in the way of entities alone, and only where the
names of both are one in lower case. -/
inductive Refused (options : Options) (modules : List ModuleRoutes) (entities : List Entity) :
    ItemFailure → Prop
  | moduleIdentifier {module first} (hm : module ∈ modules) (hf : first ∈ modules)
      (h : Naming.moduleIdentifier first.module = Naming.moduleIdentifier module.module) :
      Refused options modules entities ⟨.module module.module,
        .namingCollision (Naming.moduleIdentifier module.module) (Item.module first.module).text
          (Item.module module.module).text⟩
  | handlers {module failure} (hm : module ∈ modules)
      (h : Handler.ofModule module = .error failure) :
      Refused options modules entities ⟨.module module.module, failure⟩
  | service {module handlers failure} (hm : module ∈ modules)
      (hh : Handler.ofModule module = .ok handlers)
      (h : ModuleService.ofHandlers handlers = .error failure) :
      Refused options modules entities ⟨.module module.module, failure⟩
  | entityIdentifier {entity first} (he : entity ∈ entities) (hf : first ∈ entities)
      (h : Naming.typeIdentifier first.name = Naming.typeIdentifier entity.name) :
      Refused options modules entities ⟨.entity entity.schemaName,
        .namingCollision (Naming.typeIdentifier entity.name) (Item.entity first.schemaName).text
          (Item.entity entity.schemaName).text⟩
  | entityPath {entity first} (he : entity ∈ entities) (hf : first ∈ entities)
      (hne : first.schemaName ≠ entity.schemaName)
      (h : Unicode.lowercase first.name = Unicode.lowercase entity.name) :
      Refused options modules entities ⟨.entity entity.schemaName,
        .namingCollision (options.fileName (EntityFile.stem entity.name))
          (Item.entity first.schemaName).text (Item.entity entity.schemaName).text⟩

theorem Refused.of_moduleFiles {module : ModuleRoutes} (hm : module ∈ modules) {failure : Failure}
    (h : moduleFiles options module = .error failure) :
    Refused options modules entities ⟨.module module.module, failure⟩ := by
  unfold moduleFiles at h
  cases hh : Handler.ofModule module with
  | error reason =>
    rw [hh] at h
    cases h
    exact .handlers hm hh
  | ok handlers =>
    rw [hh, ok_bind] at h
    cases hs : ModuleService.ofHandlers handlers with
    | error reason =>
      rw [hs] at h
      split at h
      · cases h
        exact .service hm hh hs
      · cases h
    | ok service =>
      rw [hs] at h
      split at h <;> cases h

theorem refused_of_module {before after : List ModuleRoutes} {module : ModuleRoutes}
    (hnames : ((before ++ module :: after).map ModuleRoutes.module).Nodup)
    (hdeclared : ∀ other ∈ before ++ module :: after, other.module ∈ doc.modules)
    {failure : Failure} (h : (Offer.ofModule options module).refusal?
      (Progress.turns (Offer.ofModule options) ModuleRoutes.module before { output := {} }).taken
      (Progress.turns (Offer.ofModule options) ModuleRoutes.module before { output := {} }).output
        = some failure) :
    Refused options (before ++ module :: after) entities ⟨.module module.module, failure⟩ := by
  have hmem : module ∈ before ++ module :: after := by simp
  rcases Progress.refusal?_turns_eq_some rfl h with
    ⟨first, hfirst, hidentifier, rfl⟩ | ⟨-, herror | ⟨batch, hbatch, hc⟩⟩
  · exact .moduleIdentifier hmem (List.mem_append_left _ hfirst) hidentifier
  · exact .of_moduleFiles hmem herror
  · have hnone := conflict?_module_eq_none hnames hdeclared hbatch
    cases hnone.symm.trans hc

theorem refused_of_entity {before after : List Entity} {entity : Entity}
    (hnames : ∀ other ∈ before ++ entity :: after,
      Entity.stripSuffix? other.schemaName = some other.name)
    {failure : Failure} (h : (Offer.ofEntity options entity).refusal?
      (Progress.turns (Offer.ofEntity options) id before
        { output := (emitModules options modules {}).value }).taken
      (Progress.turns (Offer.ofEntity options) id before
        { output := (emitModules options modules {}).value }).output = some failure) :
    Refused options modules (before ++ entity :: after) ⟨.entity entity.schemaName, failure⟩ := by
  have hmem : entity ∈ before ++ entity :: after := by simp
  rcases Progress.refusal?_turns_eq_some rfl h with
    ⟨first, hfirst, hidentifier, rfl⟩ | ⟨hfree, herror | ⟨batch, hbatch, hc⟩⟩
  · exact .entityIdentifier hmem (List.mem_append_left _ hfirst) hidentifier
  · cases herror
  · cases hbatch
    obtain ⟨file, hf, hpath, rfl⟩ := Output.conflict?_singleton hc
    have hbefore : ∀ other ∈ before, Entity.stripSuffix? other.schemaName = some other.name :=
      fun other hother => hnames other (List.mem_append_left _ hother)
    obtain ⟨⟨stem, hstem, hat⟩, howner⟩ := forall_files_of_entities hbefore file hf
    have hsame : stem = EntityFile.stem entity.name :=
      Options.fileName_inj.mp (hat.symm.trans hpath)
    rcases howner with hfamily | ⟨first, hfirst, rfl, htaken⟩
    · have hown : EntityFile.stem entity.name ∈ (Item.entity entity.schemaName).stems := by
        simp [Item.stems, hnames entity hmem]
      rw [Item.family_eq_ofStem hstem, hsame, ← Item.family_eq_ofStem hown] at hfamily
      exact absurd hfamily (by simp [Item.family])
    · have hlower := EntityFile.stem_inj.mp (Options.fileName_inj.mp hpath)
      refine .entityPath hmem (List.mem_append_left _ hfirst) (fun hschema => ?_) hlower
      -- entities of one schema would also share the identifier
      have hname := hbefore first hfirst
      rw [hschema, hnames entity hmem] at hname
      rw [← Option.some.inj hname] at htaken
      exact hfree htaken

theorem forall_failures (hs : Selects options doc modules entities) :
    ∀ failure ∈ (emitAll options modules entities).value.failures,
      Refused options modules entities failure := by
  have hnames := hs.schemaNames.2
  rintro ⟨item, failure⟩ hmem
  rw [value_emitAll, failures_emitEntities hnames] at hmem
  rcases Progress.exists_refusal hmem with hmem | ⟨before, entity, after, rfl, rfl, hrefusal⟩
  · change _ ∈ (emitModules options modules {}).value.failures at hmem
    rw [failures_emitModules] at hmem
    rcases Progress.exists_refusal hmem with hnone | ⟨before, module, after, rfl, rfl, hrefusal⟩
    · cases hnone
    · have hdeclared : ∀ other ∈ before ++ module :: after, other.module ∈ doc.modules :=
        fun other hother => hs.names_sublist.subset (List.mem_map_of_mem hother)
      exact refused_of_module (doc.nodup_modules.sublist hs.names_sublist) hdeclared hrefusal
  · exact refused_of_entity hnames hrefusal

/-! ## The paths of a run -/

/-- How far the paths of a run are apart: which items may ask for one path, where every file lies,
why items are left out, and which insertions find their paths free. -/
structure PathsApart (options : Options) (doc : Document) (modules : List ModuleRoutes)
    (entities : List Entity) (output : Output) : Prop where
  items : ∀ a b : Item, a.DeclaredIn doc → b.DeclaredIn doc →
    ∀ path ∈ a.paths options, path ∈ b.paths options →
      a = b ∨ ∃ schemaName schemaName', a = .entity schemaName ∧ b = .entity schemaName' ∧
        SameLowercase schemaName schemaName'
  files : ∀ file ∈ output.files,
    file.owner.DeclaredIn doc ∧ file.path ∈ file.owner.paths options
  failures : ∀ failure ∈ output.failures, Refused options modules entities failure
  batches : ∀ before module after, modules = before ++ module :: after →
    ∀ batch, moduleFiles options module = .ok batch →
      ((before.foldlM (moduleStep options) { output := {} }).value.output.insertAll
        (.module module.module) batch).value.2
  mainRouter : ∀ content,
    ((modules.foldlM (moduleStep options) { output := {} }).value.output.insertAll .mainRouter
      [(options.fileName mainRouterStem, content)]).value.2
  entityIndex : ∀ content,
    ((entities.foldlM (entityStep options)
      { output := (emitModules options modules {}).value }).value.output.insertAll .entityIndex
        [(options.fileName entityIndexStem, content)]).value.2

/-- Items of different families never ask for one path, and neither do two modules: a path only ever
stands between two entities whose names are one in lower case. -/
theorem paths_of_items_apart (hr : (run options doc).outcome = .ok output) :
    ∃ modules entities, Selects options doc modules entities ∧
      PathsApart options doc modules entities output := by
  obtain ⟨modules, entities, hs, rfl⟩ := exists_selects hr
  obtain ⟨mounted, skipped, exported, dropped, h⟩ := exists_settles hs.schemaNames.2
  have hdeclared : ∀ module ∈ modules, module.module ∈ doc.modules :=
    fun module hm => hs.names_sublist.subset (List.mem_map_of_mem hm)
  refine ⟨modules, entities, hs, ?_⟩
  exact {
    items := fun a b ha hb path => Item.eq_or_sameLowercase ha hb
    files := by
      intro file hf
      obtain ⟨stem, hstem, hpath⟩ := h.atStem hs file hf
      exact ⟨h.declaredIn hs file hf, hpath ▸ List.mem_map_of_mem hstem⟩
    failures := forall_failures hs
    batches := by
      rintro before module after rfl batch hbatch
      rw [Output.insertAll_eq_true_iff, value_foldlM_moduleStep]
      exact conflict?_module_eq_none (doc.nodup_modules.sublist hs.names_sublist) hdeclared hbatch
    mainRouter := by
      intro content
      rw [Output.insertAll_eq_true_iff, value_foldlM_moduleStep]
      exact conflict?_mainRouter_eq_none modules content
    entityIndex := by
      intro content
      rw [Output.insertAll_eq_true_iff, value_foldlM_entityStep]
      exact conflict?_entityIndex_eq_none hs.schemaNames.2 content }

theorem paths_of_items_apart_colliding :
    ∃ output, (run routesAndEntities collidingDocument).outcome = .ok output ∧
      output.failures = [
        ⟨.module "userList", .namingCollision "userList" "module user-list" "module userList"⟩,
        ⟨.entity "USEREntity",
          .namingCollision "user.entity.ts" "entity UserEntity" "entity USEREntity"⟩] ∧
      ∃ modules entities, Selects routesAndEntities collidingDocument modules entities ∧
        PathsApart routesAndEntities collidingDocument modules entities output := by
  have hrun : (run routesAndEntities collidingDocument).outcome.map Output.failures = .ok [
      ⟨.module "userList", .namingCollision "userList" "module user-list" "module userList"⟩,
      ⟨.entity "USEREntity",
        .namingCollision "user.entity.ts" "entity UserEntity" "entity USEREntity"⟩] := by
    decide +kernel
  obtain ⟨output, hr, hfailures⟩ := map_eq_ok_iff.mp hrun
  exact ⟨output, hr, hfailures, paths_of_items_apart hr⟩

end Generation

end OpenApiGen
