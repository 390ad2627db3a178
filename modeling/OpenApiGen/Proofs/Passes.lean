import OpenApiGen.Proofs.EmittedFiles

/-! # Passes over modules and entities: what each turn adds, and what all of them come to -/

namespace OpenApiGen

namespace Output

def paths (output : Output) : List String := output.files.map EmittedFile.path

theorem mem_paths {output : Output} {path : String} :
    path ∈ output.paths ↔ ∃ file ∈ output.files, file.path = path := List.mem_map

theorem file?_eq_none_iff {output : Output} {path : String} :
    output.file? path = none ↔ path ∉ output.paths := by
  simp [file?, mem_paths]

/-- A batch has no conflict where its paths are new, and each stands in it once. -/
theorem conflict?_eq_none_iff {output : Output} {item : Item} {earlier : List String}
    {batch : List (String × String)} :
    output.conflict? item earlier batch = none ↔
      (batch.map Prod.fst).Nodup ∧
        ∀ path ∈ batch.map Prod.fst, path ∉ earlier ∧ path ∉ output.paths := by
  induction batch generalizing earlier with
  | nil => simp [conflict?]
  | cons entry rest ih =>
    obtain ⟨path, content⟩ := entry
    rw [conflict?]
    by_cases he : path ∈ earlier
    · simp [he]
    · cases hfile : output.file? path with
      | some file =>
        have htaken : path ∈ output.paths := by
          rw [← not_not (a := path ∈ output.paths), ← file?_eq_none_iff, hfile]
          simp
        simp [he, htaken]
      | none =>
        have hnew := file?_eq_none_iff.mp hfile
        simp only [List.contains_iff_mem, he, if_false, ih, List.map_cons, List.nodup_cons,
          List.mem_cons, not_or, forall_eq_or_imp]
        constructor
        · rintro ⟨hn, hrest⟩
          exact ⟨⟨fun hm => (hrest path hm).1.1 rfl, hn⟩, ⟨not_false, hnew⟩,
            fun p hp => ⟨(hrest p hp).1.2, (hrest p hp).2⟩⟩
        · rintro ⟨⟨hm, hn⟩, -, hrest⟩
          exact ⟨hn, fun p hp => ⟨⟨fun e => hm (e ▸ hp), (hrest p hp).1⟩, (hrest p hp).2⟩⟩

theorem nodup_paths_append {output : Output} {item : Item} {batch : List (String × String)}
    (hc : output.conflict? item [] batch = none) (hn : output.paths.Nodup) :
    (output.paths ++ batch.map Prod.fst).Nodup := by
  obtain ⟨hdistinct, hnew⟩ := conflict?_eq_none_iff.mp hc
  rw [List.nodup_append]
  refine ⟨hn, hdistinct, ?_⟩
  rintro path hp _ hm rfl
  exact (hnew path hm).2 hp

/-- No path is written twice. -/
theorem nodup_paths_insertAll {output : Output} {item : Item} {batch : List (String × String)}
    (hn : output.paths.Nodup) : (output.insertAll item batch).value.1.paths.Nodup := by
  rw [paths, files_insertAll]
  cases hc : output.conflict? item [] batch with
  | some failure => exact hn
  | none =>
    have h := nodup_paths_append hc hn
    simp only [paths] at h
    simpa [Function.comp_def] using h

end Output

namespace Generation

/-- What is known of a module or an entity before its turn: the identifier it asks for, and its
files, where they can be written. -/
structure Offer where
  item : Item
  identifier : String
  files : Except Failure (List (String × String))

namespace Offer

def ofModule (options : Options) (module : ModuleRoutes) : Offer where
  item := .module module.module
  identifier := Naming.moduleIdentifier module.module
  files := moduleFiles options module

def ofEntity (options : Options) (entity : Entity) : Offer where
  item := .entity entity.schemaName
  identifier := Naming.typeIdentifier entity.name
  files := .ok [entityFile options entity]

/-- The files under the item they are written for. -/
def emitted (offer : Offer) : List EmittedFile :=
  match offer.files with
  | .ok batch => batch.map fun (path, content) => ⟨path, content, offer.item⟩
  | .error _ => []

/-- Why an offer is not taken: its identifier is, its files cannot be written, or one of their paths
is taken. -/
def refusal? (offer : Offer) (taken : TakenNames) (output : Output) : Option Failure :=
  match takenBy? taken offer.identifier offer.item with
  | some failure => some failure
  | none => match offer.files with
    | .error failure => some failure
    | .ok batch => output.conflict? offer.item [] batch

end Offer

theorem Offer.refusal?_eq_none_iff {offer : Offer} {taken : TakenNames} {output : Output} :
    offer.refusal? taken output = none ↔ offer.identifier ∉ KeyedList.keys taken ∧
      ∃ batch, offer.files = .ok batch ∧ output.conflict? offer.item [] batch = none := by
  unfold refusal? takenBy?
  cases hfind : KeyedList.find? offer.identifier taken with
  | some first =>
    have hmem : offer.identifier ∈ KeyedList.keys taken := by
      rw [← not_not (a := offer.identifier ∈ _), ← KeyedList.find?_eq_none_iff, hfind]
      simp
    simp [hmem]
  | none =>
    have hfree := KeyedList.find?_eq_none_iff.mp hfind
    cases hfiles : offer.files <;> simp [hfree]

/-- A turn takes an offer with all of its files, or records why not. -/
def Progress.turn {α : Type} (progress : Progress α) (offer : Offer) (a : α) : Progress α :=
  match offer.refusal? progress.taken progress.output with
  | some failure =>
    { progress with output :=
        { progress.output with failures := progress.output.failures ++ [⟨offer.item, failure⟩] } }
  | none =>
    ⟨{ progress.output with files := progress.output.files ++ offer.emitted },
      progress.taken ++ [(offer.identifier, offer.item)], progress.emitted ++ [a]⟩

theorem value_step {α : Type} (progress : Progress α) (offer : Offer) (a : α)
    {emit : Output → Traced (Output × Bool)}
    (hemit : ∀ output, emit output = match offer.files with
      | .error failure => do return (← output.addFailure offer.item failure, false)
      | .ok batch => output.insertAll offer.item batch) :
    (progress.step a offer.item offer.identifier emit).value = progress.turn offer a := by
  unfold Progress.step Progress.turn Offer.refusal?
  cases takenBy? progress.taken offer.identifier offer.item with
  | some failure => rfl
  | none =>
    simp only [Traced.value_bind, hemit]
    cases hfiles : offer.files with
    | error failure => rfl
    | ok batch =>
      rcases Option.eq_none_or_eq_some (progress.output.conflict? offer.item [] batch) with
        hc | ⟨failure, hc⟩
      · simp only [Output.insertAll, hc, Offer.emitted, hfiles]
        rfl
      · simp only [Output.insertAll, hc]
        rfl

theorem value_moduleStep (options : Options) (progress : Progress String) (module : ModuleRoutes) :
    (moduleStep options progress module).value
      = progress.turn (.ofModule options module) module.module :=
  value_step progress (.ofModule options module) module.module fun _ => rfl

theorem value_entityStep (options : Options) (progress : Progress Entity) (entity : Entity) :
    (entityStep options progress entity).value = progress.turn (.ofEntity options entity) entity :=
  value_step progress (.ofEntity options entity) entity fun _ => rfl

variable {α β : Type}

/-- What the turns of some items come to: which were kept, which were left out, and what became of
both. -/
structure Passes (offer : β → Offer) (key : β → α) (items kept left : List β)
    (start finish : Progress α) : Prop where
  partition : (kept ++ left).Perm items
  order : kept.Sublist items
  files : finish.output.files = start.output.files ++ kept.flatMap fun x => (offer x).emitted
  failures : finish.output.failures.map ItemFailure.item =
    start.output.failures.map ItemFailure.item ++ left.map fun x => (offer x).item
  taken : KeyedList.keys finish.taken =
    KeyedList.keys start.taken ++ kept.map fun x => (offer x).identifier
  emitted : finish.emitted = start.emitted ++ kept.map key
  written : ∀ x ∈ kept, ∃ batch, (offer x).files = .ok batch
  paths : start.output.paths.Nodup → finish.output.paths.Nodup
  identifiers : (KeyedList.keys start.taken).Nodup → (KeyedList.keys finish.taken).Nodup

namespace Passes

variable {offer : β → Offer} {key : β → α} {items kept left : List β} {start finish : Progress α}
  {x : β}

theorem nil (start : Progress α) : Passes offer key [] [] [] start start where
  partition := .refl _
  order := .refl _
  files := by simp
  failures := by simp
  taken := by simp
  emitted := by simp
  written := by simp
  paths := id
  identifiers := id

/-- Nothing but a failure comes of an item that is left out. -/
theorem leave {failure : Failure}
    (hr : (offer x).refusal? start.taken start.output = some failure)
    (h : Passes offer key items kept left (start.turn (offer x) (key x)) finish) :
    Passes offer key (x :: items) kept (x :: left) start finish := by
  have hturn : start.turn (offer x) (key x) = { start with output := { start.output with
      failures := start.output.failures ++ [⟨(offer x).item, failure⟩] } } := by
    simp only [Progress.turn, hr]
  rw [hturn] at h
  exact {
    partition := List.perm_middle.trans (h.partition.cons x)
    order := h.order.cons x
    files := h.files
    failures := by simpa using h.failures
    taken := h.taken
    emitted := h.emitted
    written := h.written
    paths := h.paths
    identifiers := h.identifiers }

/-- An item that is kept adds its files, which are new, and its identifier, which was free. -/
theorem keep (hr : (offer x).refusal? start.taken start.output = none)
    (h : Passes offer key items kept left (start.turn (offer x) (key x)) finish) :
    Passes offer key (x :: items) (x :: kept) left start finish := by
  have hturn : start.turn (offer x) (key x) =
      ⟨{ start.output with files := start.output.files ++ (offer x).emitted },
        start.taken ++ [((offer x).identifier, (offer x).item)], start.emitted ++ [key x]⟩ := by
    simp only [Progress.turn, hr]
  rw [hturn] at h
  obtain ⟨hfree, batch, hbatch, hconflict⟩ := Offer.refusal?_eq_none_iff.mp hr
  have hemitted : (offer x).emitted.map EmittedFile.path = batch.map Prod.fst := by
    simp [Offer.emitted, hbatch]
  have hidentifiers : (KeyedList.keys start.taken).Nodup →
      (KeyedList.keys start.taken ++ [(offer x).identifier]).Nodup := by
    intro hn
    rw [List.nodup_append]
    refine ⟨hn, by simp, ?_⟩
    rintro identifier hi _ hm rfl
    exact hfree (List.mem_singleton.mp hm ▸ hi)
  exact {
    partition := h.partition.cons x
    order := h.order.cons_cons x
    files := by simpa using h.files
    failures := h.failures
    taken := by simpa [KeyedList.keys] using h.taken
    emitted := by simpa using h.emitted
    written := List.forall_mem_cons.mpr ⟨⟨batch, hbatch⟩, h.written⟩
    paths := fun hn => h.paths (by
      simpa [Output.paths, hemitted] using Output.nodup_paths_append hconflict hn)
    identifiers := fun hn => h.identifiers (by simpa [KeyedList.keys] using hidentifiers hn) }

/-- What holds of the files at the start, and of those of the kept items, holds of all of them. -/
theorem forall_files {P : EmittedFile → Prop} (h : Passes offer key items kept left start finish)
    (hstart : ∀ file ∈ start.output.files, P file)
    (hkept : ∀ x ∈ kept, ∀ file ∈ (offer x).emitted, P file) :
    ∀ file ∈ finish.output.files, P file := by
  intro file hf
  rw [h.files] at hf
  rcases List.mem_append.mp hf with hf | hf
  · exact hstart file hf
  · obtain ⟨x, hx, hf⟩ := List.mem_flatMap.mp hf
    exact hkept x hx file hf

end Passes

/-- Every item has its turn, in order. -/
def Progress.turns (offer : β → Offer) (key : β → α) (items : List β) (start : Progress α) :
    Progress α :=
  items.foldl (fun progress x => progress.turn (offer x) (key x)) start

theorem exists_passes (offer : β → Offer) (key : β → α) (items : List β) (start : Progress α) :
    ∃ kept left, Passes offer key items kept left start (start.turns offer key items) := by
  -- for every start: a turn is judged by what the turns before it have left
  induction items generalizing start with
  | nil => exact ⟨[], [], .nil start⟩
  | cons x items ih =>
    obtain ⟨kept, left, h⟩ := ih (start.turn (offer x) (key x))
    cases hr : (offer x).refusal? start.taken start.output with
    | some failure => exact ⟨kept, x :: left, h.leave hr⟩
    | none => exact ⟨x :: kept, left, h.keep hr⟩

theorem value_foldlM_moduleStep (options : Options) (modules : List ModuleRoutes)
    (start : Progress String) : (modules.foldlM (moduleStep options) start).value =
      start.turns (Offer.ofModule options) ModuleRoutes.module modules := by
  simp only [Traced.value_foldlM, value_moduleStep]
  rfl

theorem value_foldlM_entityStep (options : Options) (entities : List Entity)
    (start : Progress Entity) : (entities.foldlM (entityStep options) start).value =
      start.turns (Offer.ofEntity options) id entities := by
  simp only [Traced.value_foldlM, value_entityStep]
  rfl

/-- The modules have their turns, and then the router that mounts those that were emitted. -/
theorem value_emitModules (options : Options) (modules : List ModuleRoutes) (output : Output) :
    (emitModules options modules output).value =
      let progress := Progress.turns (Offer.ofModule options) ModuleRoutes.module modules
        { output := output }
      if options.artifacts.routes && !modules.isEmpty then
        (progress.output.insertAll .mainRouter
          [(options.fileName mainRouterStem, (MainRouter.ofModules progress.emitted).text)]).value.1
      else progress.output := by
  unfold emitModules
  simp only [Traced.value_bind, value_foldlM_moduleStep]
  split <;> rfl

/-- The entities have their turns, and then the index of those that were emitted. -/
theorem value_emitEntities (options : Options) (entities : List Entity) (output : Output) :
    (emitEntities options entities output).value =
      let progress := Progress.turns (Offer.ofEntity options) id entities { output := output }
      if entities.isEmpty then progress.output
      else (progress.output.insertAll .entityIndex [(options.fileName entityIndexStem,
        EntityIndex.text
          (EntityIndex.ofEntities options.entities.exportForm progress.emitted))]).value.1 := by
  unfold emitEntities
  simp only [Traced.value_bind, value_foldlM_entityStep]
  split <;> rfl

theorem value_emitAll (options : Options) (modules : List ModuleRoutes) (entities : List Entity) :
    (emitAll options modules entities).value =
      (emitEntities options entities (emitModules options modules {}).value).value := rfl

end Generation
end OpenApiGen
