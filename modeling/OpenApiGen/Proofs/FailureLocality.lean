import OpenApiGen.Proofs.ModuleIndependence

/-!
# Failures of modules are local

A module that fails leaves its failure behind and nothing else: no file, no identifier and no
mounted name. The document without its paths comes to the same output, that failure apart.
-/

namespace OpenApiGen

theorem filter_eq_singleton {α β : Type} [DecidableEq β] {f : α → β} {items : List α} {a : α}
    {b : β} (hcount : (items.map f).count b ≤ 1) (ha : a ∈ items) (hb : f a = b) :
    items.filter (f · = b) = [a] := by
  have hmem : a ∈ items.filter (f · = b) := List.mem_filter.mpr ⟨ha, by simpa using hb⟩
  have hlength : (items.filter (f · = b)).length ≤ 1 := by
    rw [List.count, List.countP_map, List.countP_eq_length_filter] at hcount
    simpa [Function.comp_def, Bool.beq_eq_decide_eq] using hcount
  have hone : (items.filter (f · = b)).length = 1 :=
    Nat.le_antisymm hlength (List.length_pos_of_mem hmem)
  obtain ⟨x, hx⟩ := List.length_eq_one_iff.mp hone
  rw [hx] at hmem ⊢
  rw [List.mem_singleton.mp hmem]

namespace Document

variable {doc : Document} {bearer name other : String} {modules : List ModuleRoutes}

/-- The document without the paths of a module. -/
def withoutModule (doc : Document) (name : String) : Document :=
  { doc with paths := doc.paths.filter fun (path, _) => moduleOf? path ≠ some name }

theorem pathsOf_withoutModule (h : other ≠ name) :
    (doc.withoutModule name).pathsOf other = doc.pathsOf other := by
  simp only [pathsOf, withoutModule, List.filter_filter]
  refine List.filter_congr fun entry _ => ?_
  rw [Bool.and_eq_left_iff_imp, decide_eq_true_iff, decide_eq_true_iff]
  intro hm hn
  exact h (Option.some.inj (hm.symm.trans hn))

theorem foldl_addModule_filter (names modules : List String) :
    (names.filter (· ≠ name)).foldl addModule (modules.filter (· ≠ name)) =
      (names.foldl addModule modules).filter (· ≠ name) := by
  induction names generalizing modules with
  | nil => rfl
  | cons first names ih =>
    rw [List.foldl_cons, ← ih]
    by_cases hname : first = name
    · have hadded : (addModule modules first).filter (· ≠ name) = modules.filter (· ≠ name) := by
        unfold addModule
        split
        · rfl
        · simp [hname]
      rw [List.filter_cons_of_neg (by simpa using hname), hadded]
    · have hadded : (addModule modules first).filter (· ≠ name)
          = addModule (modules.filter (· ≠ name)) first := by
        unfold addModule
        simp only [List.contains_iff_mem, List.mem_filter]
        split <;> simp_all
      rw [List.filter_cons_of_pos (by simpa using hname), List.foldl_cons, hadded]

/-- The other modules are discovered in the same order. -/
theorem modules_withoutModule :
    (doc.withoutModule name).modules = doc.modules.filter (· ≠ name) := by
  have hnames : (doc.withoutModule name).moduleNames = doc.moduleNames.filter (· ≠ name) := by
    simp only [moduleNames, withoutModule, KeyedList.keys, List.filterMap_map,
      List.filterMap_filter, List.filter_filterMap]
    refine List.filterMap_congr fun entry _ => ?_
    cases hm : moduleOf? entry.1 with
    | none => simp [hm]
    | some other => by_cases hother : other = name <;> simp [hm, hother, Option.filter_some]
  rw [modules_eq_foldl, modules_eq_foldl, hnames]
  exact foldl_addModule_filter doc.moduleNames []

theorem extractModules_withoutModule (h : (doc.extractModules bearer).outcome = .ok modules) :
    ((doc.withoutModule name).extractModules bearer).outcome =
      .ok (modules.filter (·.module ≠ name)) := by
  rw [extractModules_eq_ok_iff] at h ⊢
  rw [modules_withoutModule]
  have hothers : List.Forall₂ (fun other module =>
      (doc.extractModule bearer other).outcome = .ok module)
      (doc.modules.filter (· ≠ name)) (modules.filter (·.module ≠ name)) := by
    refine List.rel_filter ?_ h
    intro other module he
    obtain rfl := module_of_extractModule he
    rfl
  have hne : ∀ other ∈ doc.modules.filter (· ≠ name), other ≠ name := fun other hmem =>
    of_decide_eq_true (List.mem_filter.mp hmem).2
  refine ((List.forall₂_and_left ..).mpr ⟨hne, hothers⟩).imp ?_
  rintro other module ⟨hother, he⟩
  have hcomponents : (doc.withoutModule name).components = doc.components := rfl
  rwa [extractModule_congr hcomponents (pathsOf_withoutModule hother)]

end Document

namespace Output

variable {output : Output} {item : Item}

/-- The output without the failures of an item. -/
def withoutFailuresOf (output : Output) (item : Item) : Output :=
  { output with failures := output.failures.filter (·.item ≠ item) }

theorem conflict?_withoutFailuresOf (of : Item) (earlier : List String)
    (batch : List (String × String)) :
    (output.withoutFailuresOf item).conflict? of earlier batch
      = output.conflict? of earlier batch := by
  induction batch generalizing earlier with
  | nil => rfl
  | cons entry rest ih =>
    obtain ⟨path, content⟩ := entry
    have hfile : (output.withoutFailuresOf item).file? path = output.file? path := rfl
    rw [conflict?, conflict?, hfile]
    simp only [ih]

/-- A batch is taken or refused whatever has failed before. -/
theorem value_insertAll_withoutFailuresOf {of : Item} (hne : of ≠ item)
    (batch : List (String × String)) :
    ((output.withoutFailuresOf item).insertAll of batch).value.1 =
      (output.insertAll of batch).value.1.withoutFailuresOf item := by
  unfold insertAll
  rw [conflict?_withoutFailuresOf]
  cases output.conflict? of [] batch with
  | none => rfl
  | some failure =>
    simp [addFailure, withoutFailuresOf, hne]

theorem mem_failed_of_insertAll {of : Item} (hne : of ≠ item) {batch : List (String × String)}
    (h : item ∈ (output.insertAll of batch).value.1.failures.map ItemFailure.item) :
    item ∈ output.failures.map ItemFailure.item := by
  unfold insertAll at h
  cases hc : output.conflict? of [] batch with
  | none =>
    simp only [hc] at h
    exact h
  | some conflict =>
    simp only [hc, Traced.value_bind, Traced.value_pure, addFailure, List.map_append] at h
    rcases List.mem_append.mp h with h | h
    · exact h
    · exact absurd (List.mem_singleton.mp h).symm hne

end Output

namespace Generation

variable {α β : Type} {item : Item}

theorem Offer.refusal?_withoutFailuresOf (offer : Offer) (taken : TakenNames) (output : Output) :
    offer.refusal? taken (output.withoutFailuresOf item) = offer.refusal? taken output := by
  unfold refusal?
  simp only [Output.conflict?_withoutFailuresOf]

namespace Progress

/-- The progress without the failures of an item. -/
def withoutFailuresOf (progress : Progress α) (item : Item) : Progress α :=
  { progress with output := progress.output.withoutFailuresOf item }

/-- A turn of another item does not see the failures. -/
theorem turn_withoutFailuresOf (progress : Progress α) {offer : Offer} (hne : offer.item ≠ item)
    (a : α) : (progress.withoutFailuresOf item).turn offer a =
      (progress.turn offer a).withoutFailuresOf item := by
  unfold turn
  have hrefusal : offer.refusal? (progress.withoutFailuresOf item).taken
      (progress.withoutFailuresOf item).output = offer.refusal? progress.taken progress.output :=
    offer.refusal?_withoutFailuresOf progress.taken progress.output
  rw [hrefusal]
  cases offer.refusal? progress.taken progress.output with
  | none => rfl
  | some failure => simp [withoutFailuresOf, Output.withoutFailuresOf, hne]

/-- All that a refused turn leaves is the failure. -/
theorem withoutFailuresOf_turn_of_refusal {progress : Progress α} {offer : Offer}
    {failure : Failure} (h : offer.refusal? progress.taken progress.output = some failure) (a : α) :
    (progress.turn offer a).withoutFailuresOf offer.item
      = progress.withoutFailuresOf offer.item := by
  simp [turn, h, withoutFailuresOf, Output.withoutFailuresOf]

end Progress

variable {offer : β → Offer} {key : β → α}

theorem Progress.emitted_subset_turns (items : List β) (start : Progress α) :
    start.emitted ⊆ (start.turns offer key items).emitted := by
  obtain ⟨kept, left, h⟩ := exists_passes offer key items start
  rw [h.emitted]
  exact List.subset_append_left ..

/-- Where an item is never taken, the turns of the others come to the same without its turns, its
failures apart. -/
theorem Progress.turns_withoutFailuresOf {items : List β} {start : Progress α}
    (h : ∀ x ∈ items, (offer x).item = item → key x ∉ (start.turns offer key items).emitted) :
    (start.withoutFailuresOf item).turns offer key (items.filter fun x => (offer x).item ≠ item) =
      (start.turns offer key items).withoutFailuresOf item := by
  -- for every start: what a turn leaves behind is where the next ones start
  induction items generalizing start with
  | nil => rfl
  | cons x items ih =>
    have hcons : start.turns offer key (x :: items) =
        (start.turn (offer x) (key x)).turns offer key items := rfl
    rw [hcons] at h ⊢
    have hrest := ih fun y hy => h y (List.mem_cons_of_mem _ hy)
    by_cases hx : (offer x).item = item
    · have hnever := h x (List.mem_cons_self ..) hx
      cases hr : (offer x).refusal? start.taken start.output with
      | some failure =>
        have hturn := Progress.withoutFailuresOf_turn_of_refusal hr (key x)
        rw [hx] at hturn
        rw [List.filter_cons_of_neg (by simpa using hx), ← hrest, hturn]
      | none =>
        have htaken : key x ∈ (start.turn (offer x) (key x)).emitted := by
          simp [Progress.turn, hr]
        exact absurd (emitted_subset_turns items _ htaken) hnever
    · have hturn := turn_withoutFailuresOf start hx (key x)
      rw [List.filter_cons_of_pos (by simpa using hx), turns, List.foldl_cons, ← turns, hturn,
        hrest]

variable {options : Options} {doc : Document} {modules : List ModuleRoutes}
  {entities : List Entity} {output : Output} {name : String}

/-- Without a module that is not emitted, the other modules are emitted in the same way, and if there
is another one, so is the router that mounts them. -/
theorem emitModules_withoutFailuresOf
    (hfailed : name ∉ (Progress.turns (Offer.ofModule options) ModuleRoutes.module modules
      { output := output }).emitted)
    (hother : ∃ module ∈ modules, module.module ≠ name) :
    (emitModules options (modules.filter (·.module ≠ name))
        (output.withoutFailuresOf (.module name))).value =
      (emitModules options modules output).value.withoutFailuresOf (.module name) := by
  have hitem : ∀ module : ModuleRoutes,
      (Offer.ofModule options module).item = .module name ↔ module.module = name :=
    fun module => ⟨Item.module.inj, congrArg Item.module⟩
  have hturns : Progress.turns (Offer.ofModule options) ModuleRoutes.module
      (modules.filter (·.module ≠ name)) { output := output.withoutFailuresOf (.module name) } =
      (Progress.turns (Offer.ofModule options) ModuleRoutes.module modules
        { output := output }).withoutFailuresOf (.module name) := by
    rw [← Progress.turns_withoutFailuresOf fun module _ hm => (hitem module).mp hm ▸ hfailed]
    simp only [ne_eq, hitem]
    rfl
  have hnonempty : (modules.filter (·.module ≠ name)).isEmpty = modules.isEmpty := by
    obtain ⟨module, hm, hne⟩ := hother
    have hmem : module ∈ modules.filter (·.module ≠ name) :=
      List.mem_filter.mpr ⟨hm, by simpa using hne⟩
    rw [List.isEmpty_eq_false_iff.mpr (List.ne_nil_of_mem hmem),
      List.isEmpty_eq_false_iff.mpr (List.ne_nil_of_mem hm)]
  rw [value_emitModules, value_emitModules, hturns, hnonempty]
  dsimp only
  split
  · exact Output.value_insertAll_withoutFailuresOf Item.noConfusion _
  · rfl

theorem emitEntities_withoutFailuresOf (options : Options) (entities : List Entity)
    (output : Output) (name : String) :
    (emitEntities options entities (output.withoutFailuresOf (.module name))).value =
      (emitEntities options entities output).value.withoutFailuresOf (.module name) := by
  have hitem : ∀ entity : Entity, (Offer.ofEntity options entity).item ≠ .module name :=
    fun entity => Item.noConfusion
  have hturns : Progress.turns (Offer.ofEntity options) id entities
      { output := output.withoutFailuresOf (.module name) } =
      (Progress.turns (Offer.ofEntity options) id entities
        { output := output }).withoutFailuresOf (.module name) := by
    rw [← Progress.turns_withoutFailuresOf fun entity _ he => absurd he (hitem entity)]
    rw [List.filter_eq_self.mpr fun entity _ => by simpa using hitem entity]
    rfl
  rw [value_emitEntities, value_emitEntities, hturns]
  dsimp only
  split
  · rfl
  · exact Output.value_insertAll_withoutFailuresOf Item.noConfusion _

theorem mem_failed_of_emitEntities
    (h : .module name ∈
      (emitEntities options entities output).value.failures.map ItemFailure.item) :
    .module name ∈ output.failures.map ItemFailure.item := by
  obtain ⟨exported, dropped, hp⟩ := exists_passes (Offer.ofEntity options) id entities
    { output := output }
  have hturns : .module name ∈ (Progress.turns (Offer.ofEntity options) id entities
      { output := output }).output.failures.map ItemFailure.item := by
    rw [value_emitEntities] at h
    dsimp only at h
    split at h
    · exact h
    · exact Output.mem_failed_of_insertAll Item.noConfusion h
  rw [hp.failures] at hturns
  rcases List.mem_append.mp hturns with hbefore | hentity
  · exact hbefore
  · obtain ⟨entity, -, hitem⟩ := List.mem_map.mp hentity
    cases hitem

/-- A module with a failure in the output is one of those that were not emitted. -/
theorem not_mem_emitted_of_failed (hn : (modules.map ModuleRoutes.module).Nodup)
    (h : .module name ∈ (emitAll options modules entities).value.failures.map ItemFailure.item) :
    name ∉ (Progress.turns (Offer.ofModule options) ModuleRoutes.module modules
      { output := {} }).emitted := by
  obtain ⟨mounted, skipped, hp⟩ := exists_passes (Offer.ofModule options) ModuleRoutes.module
    modules { output := {} }
  rw [value_emitAll] at h
  have hmodules := mem_failed_of_emitEntities h
  have hturns : .module name ∈ (Progress.turns (Offer.ofModule options) ModuleRoutes.module modules
      { output := {} }).output.failures.map ItemFailure.item := by
    rw [value_emitModules] at hmodules
    dsimp only at hmodules
    split at hmodules
    · exact Output.mem_failed_of_insertAll Item.noConfusion hmodules
    · exact hmodules
  rw [hp.failures] at hturns
  obtain ⟨module, hm, hitem⟩ := List.mem_map.mp (by simpa using hturns)
  obtain rfl : module.module = name := Item.module.inj hitem
  have hnames := (hp.partition.map ModuleRoutes.module).nodup_iff.mpr hn
  rw [List.map_append, List.nodup_append] at hnames
  rw [hp.emitted]
  intro hmounted
  exact hnames.2.2 _ (by simpa using hmounted) _ (List.mem_map_of_mem hm) rfl

theorem emitAll_withoutFailuresOf (hn : (modules.map ModuleRoutes.module).Nodup)
    (hfailed : .module name ∈
      (emitAll options modules entities).value.failures.map ItemFailure.item)
    (hother : ∃ module ∈ modules, module.module ≠ name) :
    (emitAll options (modules.filter (·.module ≠ name)) entities).value =
      (emitAll options modules entities).value.withoutFailuresOf (.module name) := by
  have hmodules := emitModules_withoutFailuresOf (not_mem_emitted_of_failed hn hfailed) hother
  have hempty : ({} : Output).withoutFailuresOf (.module name) = {} := rfl
  rw [hempty] at hmodules
  rw [value_emitAll, value_emitAll, hmodules, emitEntities_withoutFailuresOf]

theorem Selects.withoutModule (h : Selects options doc modules entities) (name : String) :
    Selects options (doc.withoutModule name) (modules.filter (·.module ≠ name)) entities where
  modules := by
    have hmodules := h.modules
    split
    · rename_i hm
      rw [if_pos hm] at hmodules
      exact Document.extractModules_withoutModule hmodules
    · rename_i hm
      rw [if_neg hm] at hmodules
      rw [hmodules]
      rfl
  entities := by
    have hcomponents : (doc.withoutModule name).components.Respells doc.components :=
      .refl doc.components
    rw [Entity.extract_eq_of_respells hcomponents]
    exact h.entities

/-- A module fails once at most. -/
theorem Settles.count_failed_le_one {mounted skipped : List ModuleRoutes}
    {exported dropped : List Entity}
    (h : Settles options modules entities output mounted skipped exported dropped)
    (hn : (modules.map ModuleRoutes.module).Nodup) (name : String) :
    (output.failures.map ItemFailure.item).count (.module name) ≤ 1 := by
  have hskipped : (skipped.map fun module => Item.module module.module).Nodup := by
    have hnames := (h.modulePartition.map ModuleRoutes.module).nodup_iff.mpr hn
    rw [List.map_append] at hnames
    have hitems := (List.nodup_append.mp hnames).2.1.map fun _ _ he => Item.module.inj he
    rwa [List.map_map] at hitems
  have hdropped : (dropped.map fun entity => Item.entity entity.schemaName).count (.module name)
      = 0 := by
    refine List.count_eq_zero.mpr fun hmem => ?_
    obtain ⟨entity, -, hitem⟩ := List.mem_map.mp hmem
    cases hitem
  rw [h.failures, List.count_append, hdropped, Nat.add_zero]
  exact List.nodup_iff_count_le_one.mp hskipped _

/-- A module that fails is one of those that are taken up. -/
theorem Settles.mem_of_failed {mounted skipped : List ModuleRoutes} {exported dropped : List Entity}
    (h : Settles options modules entities output mounted skipped exported dropped)
    (hfailed : .module name ∈ output.failures.map ItemFailure.item) :
    name ∈ modules.map ModuleRoutes.module := by
  rw [h.failures] at hfailed
  rcases List.mem_append.mp hfailed with hmem | hmem
  · obtain ⟨module, hm, hitem⟩ := List.mem_map.mp hmem
    obtain rfl := Item.module.inj hitem
    exact List.mem_map_of_mem (h.modulePartition.subset (List.mem_append_right _ hm))
  · obtain ⟨entity, -, hitem⟩ := List.mem_map.mp hmem
    cases hitem

/-- The failure of a module is local: where there is another module, the document without its paths
comes to the same files, and to the same failures but for that one. -/
theorem run_withoutModule (hr : (run options doc).outcome = .ok output) {failure : ItemFailure}
    (hf : failure ∈ output.failures) (hitem : failure.item = .module name)
    (hother : ∃ other ∈ doc.modules, other ≠ name) :
    output.failures.filter (·.item = .module name) = [failure] ∧
      (run options (doc.withoutModule name)).outcome =
        .ok (output.withoutFailuresOf (.module name)) := by
  obtain ⟨modules, entities, hs, rfl⟩ := exists_selects hr
  obtain ⟨mounted, skipped, exported, dropped, h⟩ := exists_settles hs.schemaNames.2
  have hn : (modules.map ModuleRoutes.module).Nodup := doc.nodup_modules.sublist hs.names_sublist
  have hfailed : .module name ∈
      (emitAll options modules entities).value.failures.map ItemFailure.item :=
    List.mem_map.mpr ⟨failure, hf, hitem⟩
  refine ⟨filter_eq_singleton (h.count_failed_le_one hn name) hf hitem, ?_⟩
  -- where one module is taken up, all of them are
  have hmodules : options.artifacts.hasModuleFiles := by
    by_contra hnone
    have hempty := hs.modules
    rw [if_neg hnone] at hempty
    have hmem := h.mem_of_failed hfailed
    rw [hempty] at hmem
    cases hmem
  have hothers : ∃ module ∈ modules, module.module ≠ name := by
    obtain ⟨other, hmem, hne⟩ := hother
    rw [← hs.names hmodules] at hmem
    obtain ⟨module, hm, rfl⟩ := List.mem_map.mp hmem
    exact ⟨module, hm, hne⟩
  rw [(hs.withoutModule name).outcome_run, emitAll_withoutFailuresOf hn hfailed hothers]

theorem run_withoutModule_colliding : ∃ output,
    (run routesAndEntities collidingDocument).outcome = .ok output ∧
    (∃ failure ∈ output.failures, failure.item = .module "userList") ∧
    (∃ other ∈ collidingDocument.modules, other ≠ "userList") ∧
    (run routesAndEntities (collidingDocument.withoutModule "userList")).outcome =
      .ok (output.withoutFailuresOf (.module "userList")) ∧
    (output.withoutFailuresOf (.module "userList")).failures.map ItemFailure.item =
      [.entity "USEREntity"] := by
  have hrun : (run routesAndEntities collidingDocument).outcome.map
      (fun output => (output.failures.map ItemFailure.item,
        (output.withoutFailuresOf (.module "userList")).failures.map ItemFailure.item))
        = .ok ([.module "userList", .entity "USEREntity"], [.entity "USEREntity"]) := by
    decide +kernel
  obtain ⟨output, hr, hvalue⟩ := map_eq_ok_iff.mp hrun
  obtain ⟨hitems, hrest⟩ := Prod.mk.inj hvalue
  have hfailed : Item.module "userList" ∈ output.failures.map ItemFailure.item := by
    rw [hitems]
    exact List.mem_cons_self ..
  obtain ⟨failure, hf, hitem⟩ := List.mem_map.mp hfailed
  have hother : ∃ other ∈ collidingDocument.modules, other ≠ "userList" :=
    ⟨"user-list", by decide, by decide⟩
  exact ⟨output, hr, ⟨failure, hf, hitem⟩, hother, (run_withoutModule hr hf hitem hother).2, hrest⟩

end Generation
end OpenApiGen
