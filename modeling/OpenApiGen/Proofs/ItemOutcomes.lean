import OpenApiGen.Proofs.DistinctKeys
import OpenApiGen.Proofs.Settlements

/-! # What becomes of an item: all of its files, or one failure -/

namespace OpenApiGen

namespace Generation

theorem Offer.owner_of_emitted {offer : Offer} :
    ∀ file ∈ offer.emitted, file.owner = offer.item := by
  intro file hf
  unfold emitted at hf
  split at hf
  · obtain ⟨entry, -, rfl⟩ := List.mem_map.mp hf
    rfl
  · cases hf

theorem Offer.mem_emitted {offer : Offer} {batch : List (String × String)}
    (hfiles : offer.files = .ok batch) {entry : String × String} (he : entry ∈ batch) :
    ⟨entry.1, entry.2, offer.item⟩ ∈ offer.emitted := by
  simp only [emitted, hfiles]
  exact List.mem_map.mpr ⟨entry, he, rfl⟩

variable {options : Options} {doc : Document} {modules : List ModuleRoutes}
  {entities : List Entity} {output : Output}

/-- All that a run has to emit, the two that sum it up apart. -/
def offers (options : Options) (modules : List ModuleRoutes) (entities : List Entity) :
    List Offer :=
  modules.map (Offer.ofModule options) ++ entities.map (Offer.ofEntity options)

end Generation

namespace Output

/-- The output holds the files of an item, as they were written, and no failure under its name. -/
def Keeps (output : Output) (offer : Generation.Offer) : Prop :=
  ∃ batch, offer.files = .ok batch ∧
    (∀ entry ∈ batch, ⟨entry.1, entry.2, offer.item⟩ ∈ output.files) ∧
    ∀ failure ∈ output.failures, failure.item.text ≠ offer.item.text

end Output

namespace Generation

variable {options : Options} {doc : Document} {modules mounted skipped : List ModuleRoutes}
  {entities exported dropped : List Entity} {output : Output}

namespace Settles

variable (h : Settles options modules entities output mounted skipped exported dropped)
include h

theorem partition :
    (offers options mounted exported ++ offers options skipped dropped).Perm
      (offers options modules entities) := by
  have hm := h.modulePartition.map (Offer.ofModule options)
  have he := h.entityPartition.map (Offer.ofEntity options)
  rw [List.map_append] at hm he
  unfold offers
  rw [List.append_assoc]
  refine .trans (.append_left _ (List.perm_append_comm_assoc ..)) ?_
  rw [← List.append_assoc]
  exact hm.append he

theorem mem_offers {offer : Offer} : offer ∈ offers options modules entities ↔
      offer ∈ offers options mounted exported ∨ offer ∈ offers options skipped dropped := by
  rw [← h.partition.mem_iff, List.mem_append]

theorem mem_files {file : EmittedFile} :
    file ∈ output.files ↔ (∃ offer ∈ offers options mounted exported, file ∈ offer.emitted) ∨
      file ∈ mainRouterFile options modules (mounted.map ModuleRoutes.module) ∨
      file ∈ entityIndexFile options entities exported := by
  rw [← List.mem_flatMap, offers, List.flatMap_append, List.flatMap_map, List.flatMap_map, h.files]
  simp only [List.mem_append]
  tauto

/-- A file that does not sum up others was offered by a module or an entity. -/
theorem exists_offer {file : EmittedFile} (hf : file ∈ output.files)
    (hrouter : file.owner ≠ .mainRouter) (hindex : file.owner ≠ .entityIndex) :
    ∃ offer ∈ offers options mounted exported, offer.item = file.owner ∧ file ∈ offer.emitted := by
  rcases h.mem_files.mp hf with ⟨offer, ho, hf⟩ | hf | hf
  · exact ⟨offer, ho, (Offer.owner_of_emitted file hf).symm, hf⟩
  · exact absurd (atStem_of_mainRouterFile file hf).2 hrouter
  · exact absurd (atStem_of_entityIndexFile file hf).2 hindex

/-- The files of a module are those that it was emitted with. -/
theorem mem_files_of_module {file : EmittedFile} {name : String} :
    file ∈ output.files ∧ file.owner = .module name ↔
      ∃ module ∈ mounted, module.module = name ∧ file ∈ (Offer.ofModule options module).emitted := by
  constructor
  · rintro ⟨hf, howner⟩
    obtain ⟨offer, ho, hitem, hemitted⟩ :=
      h.exists_offer hf (howner ▸ Item.noConfusion) (howner ▸ Item.noConfusion)
    rw [howner] at hitem
    rcases List.mem_append.mp ho with ho | ho
    · obtain ⟨module, hm, rfl⟩ := List.mem_map.mp ho
      exact ⟨module, hm, Item.module.inj hitem, hemitted⟩
    · obtain ⟨entity, -, rfl⟩ := List.mem_map.mp ho
      cases hitem
  · rintro ⟨module, hm, rfl, hf⟩
    refine ⟨h.mem_files.mpr (.inl ⟨.ofModule options module, ?_, hf⟩),
      Offer.owner_of_emitted file hf⟩
    exact List.mem_append_left _ (List.mem_map_of_mem hm)

/-- A module that is emitted has the file of each family that is enabled, and no other files. -/
theorem exists_familyFiles (hs : Selects options doc modules entities) {module : ModuleRoutes}
    (hm : module ∈ mounted) : ∃ handlers, Handler.ofModule module = .ok handlers ∧
      (options.artifacts.services → ∃ service, ModuleService.ofHandlers handlers = .ok service) ∧
      ∀ path content, ⟨path, content, .module module.module⟩ ∈ output.files ↔
        FamilyFile options module.module handlers path content := by
  obtain ⟨batch, hbatch⟩ := h.written module hm
  obtain ⟨handlers, hh, hservice, hentries⟩ := exists_handlers_of_moduleFiles hbatch
  have hfiles : (Offer.ofModule options module).files = .ok batch := hbatch
  have hnames : (modules.map ModuleRoutes.module).Nodup :=
    doc.nodup_modules.sublist hs.names_sublist
  refine ⟨handlers, hh, hservice, fun path content => ?_⟩
  rw [← hentries]
  constructor
  · intro hf
    obtain ⟨other, hother, hname, hemitted⟩ := h.mem_files_of_module.mp ⟨hf, rfl⟩
    have hsame : other = module := List.inj_on_of_nodup_map hnames (h.moduleOrder.subset hother)
      (h.moduleOrder.subset hm) hname
    rw [hsame, Offer.emitted, hfiles] at hemitted
    obtain ⟨entry, he, heq⟩ := List.mem_map.mp hemitted
    cases heq
    exact he
  · intro he
    exact (h.mem_files_of_module.mpr ⟨module, hm, rfl, Offer.mem_emitted hfiles he⟩).1

variable (hs : Selects options doc modules entities) (hd : doc.DistinctKeys)
include hs hd

end Settles

/-- Two modules with one identifier, and two entities with one file. -/
def collidingDocument : Document :=
  .ofKeys ["/user-list", "/userList"] [("UserEntity", {}), ("USEREntity", {})]

end Generation
end OpenApiGen
