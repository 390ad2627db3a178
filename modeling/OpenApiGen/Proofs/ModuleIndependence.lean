import OpenApiGen.Proofs.Aggregates
import OpenApiGen.Proofs.RespelledDocuments

/-!
# Modules are independent of each other

What a module is emitted with is made from its own paths and from the components. The paths of other
modules decide whether it is emitted, and nothing about its files.
-/

namespace OpenApiGen

theorem flatMap_ite_eq_of_nodup {α β γ : Type} [DecidableEq β] {key : α → β} {f : α → List γ}
    {items : List α} (hn : (items.map key).Nodup) {x : α} (hx : x ∈ items) :
    items.flatMap (fun y => if key y = key x then f y else []) = f x := by
  obtain ⟨front, back, rfl⟩ := List.append_of_mem hx
  rw [List.map_append, List.map_cons, List.nodup_append, List.nodup_cons] at hn
  obtain ⟨-, ⟨hback, -⟩, hfront⟩ := hn
  have hskip : ∀ y ∈ front, (if key y = key x then f y else []) = [] := fun y hy =>
    if_neg (hfront _ (List.mem_map_of_mem hy) _ (List.mem_cons_self ..))
  have hskip' : ∀ y ∈ back, (if key y = key x then f y else []) = [] := fun y hy =>
    if_neg fun he : key y = key x => hback (he ▸ List.mem_map_of_mem hy)
  rw [List.flatMap_append, List.flatMap_cons, if_pos rfl, List.flatMap_eq_nil_iff.mpr hskip,
    List.flatMap_eq_nil_iff.mpr hskip', List.nil_append, List.append_nil]

namespace Output

/-- The files that an output holds for an item. -/
def filesOf (output : Output) (item : Item) : List EmittedFile :=
  output.files.filter (·.owner = item)

end Output

namespace Document

variable {doc doc' : Document}

theorem extractModule_congr (hc : doc.components = doc'.components) {name : String}
    (hp : doc.pathsOf name = doc'.pathsOf name) (bearer : String) :
    doc.extractModule bearer name = doc'.extractModule bearer name := by
  have hcomponents : doc.components.Respells doc'.components := hc ▸ .refl _
  have hpaths : List.Forall₂ (Keyed PathItem.Respells) (doc.pathsOf name) (doc'.pathsOf name) :=
    hp ▸ forall₂_keyed_refl PathItem.Respells.refl _
  exact extractModule_eq_of_respells hcomponents bearer hpaths

end Document

namespace Generation

variable {options : Options} {doc doc' : Document} {modules mounted skipped : List ModuleRoutes}
  {entities exported dropped : List Entity} {output output' : Output} {name : String}

theorem Offer.filter_emitted (offer : Offer) (item : Item) :
    offer.emitted.filter (·.owner = item) = if offer.item = item then offer.emitted else [] := by
  have howner : ∀ file ∈ offer.emitted, file.owner = offer.item := Offer.owner_of_emitted
  split
  · rename_i hitem
    exact List.filter_eq_self.mpr fun file hf => by simp [howner file hf, hitem]
  · rename_i hitem
    exact List.filter_eq_nil_iff.mpr fun file hf => by simp [howner file hf, hitem]

namespace Settles

variable (h : Settles options modules entities output mounted skipped exported dropped)
include h

/-- A module that is emitted owns the files that it offered, in their order, and no others. -/
theorem filesOf_module (hs : Selects options doc modules entities) {module : ModuleRoutes}
    (hm : module ∈ mounted) :
    output.filesOf (.module module.module) = (Offer.ofModule options module).emitted := by
  have hnodup : (mounted.map ModuleRoutes.module).Nodup :=
    doc.nodup_modules.sublist ((h.moduleOrder.map _).trans hs.names_sublist)
  have hmodules : (mounted.flatMap fun module => (Offer.ofModule options module).emitted).filter
      (·.owner = .module module.module) = (Offer.ofModule options module).emitted := by
    rw [List.filter_flatMap]
    simp only [Offer.filter_emitted]
    have hitem : ∀ other : ModuleRoutes, (Offer.ofModule options other).item
        = .module module.module ↔ other.module = module.module := fun other =>
      ⟨Item.module.inj, congrArg Item.module⟩
    simp only [hitem]
    exact flatMap_ite_eq_of_nodup hnodup hm
  have hrouter : (mainRouterFile options modules (mounted.map ModuleRoutes.module)).filter
      (·.owner = .module module.module) = [] := by
    refine List.filter_eq_nil_iff.mpr fun file hf => ?_
    simp [(atStem_of_mainRouterFile file hf).2]
  have hentities : (exported.flatMap fun entity => (Offer.ofEntity options entity).emitted).filter
      (·.owner = .module module.module) = [] := by
    rw [List.filter_flatMap, List.flatMap_eq_nil_iff]
    intro entity _
    rw [Offer.filter_emitted]
    exact if_neg Item.noConfusion
  have hindex : (entityIndexFile options entities exported).filter
      (·.owner = .module module.module) = [] := by
    refine List.filter_eq_nil_iff.mpr fun file hf => ?_
    simp [(atStem_of_entityIndexFile file hf).2]
  rw [Output.filesOf, h.files, List.filter_append, List.filter_append, List.filter_append, hmodules,
    hrouter, hentities, hindex, List.append_nil, List.append_nil, List.append_nil]

/-- Under the stems of a module lie its own files alone. -/
theorem file?_of_moduleStem (hs : Selects options doc modules entities) (hn : name ∈ doc.modules)
    {stem : String} (hstem : stem ∈ moduleStems name) :
    output.file? (options.fileName stem) =
      (output.filesOf (.module name)).find? (·.path == options.fileName stem) := by
  have howner : ∀ file ∈ output.files, (file.path == options.fileName stem) =
      decide (decide (file.owner = .module name) ∧ file.path == options.fileName stem) := by
    intro file hf
    rw [Bool.eq_iff_iff, decide_eq_true_iff, decide_eq_true_iff, beq_iff_eq]
    refine ⟨fun hpath => ⟨?_, hpath⟩, And.right⟩
    obtain ⟨other, hother, hpath'⟩ := h.atStem hs file hf
    have heq : other = stem := Options.fileName_inj.mp (hpath'.symm.trans hpath)
    rcases Item.eq_or_entities_of_stem (b := .module name) (h.declaredIn hs file hf) hn hother
      (heq ▸ hstem) with howner | ⟨-, hfamily⟩
    · exact howner
    · cases hfamily
  rw [Output.file?, Output.filesOf, List.find?_filter, ← List.head?_filter, ← List.head?_filter,
    List.filter_congr howner]

end Settles

/-- A module that is emitted is written from what is extracted for it. -/
theorem exists_module_of_filesOf (hr : (run options doc).outcome = .ok output)
    (hne : output.filesOf (.module name) ≠ []) :
    ∃ module, (doc.extractModule options.bearerScheme name).outcome = .ok module ∧
      output.filesOf (.module name) = (Offer.ofModule options module).emitted ∧
      ∀ stem ∈ moduleStems name, output.file? (options.fileName stem) =
        (output.filesOf (.module name)).find? (·.path == options.fileName stem) := by
  obtain ⟨modules, entities, mounted, skipped, exported, dropped, hs, h⟩ :=
    exists_settles_of_run hr
  obtain ⟨file, hf⟩ := List.exists_mem_of_ne_nil _ hne
  obtain ⟨hf, howner⟩ := List.mem_filter.mp hf
  obtain ⟨module, hm, rfl, -⟩ := h.mem_files_of_module.mp ⟨hf, of_decide_eq_true howner⟩
  have hmem := h.moduleOrder.subset hm
  have hdeclared := hs.names_sublist.subset (List.mem_map_of_mem hmem)
  have hmodules := hs.modules
  split at hmodules
  · exact ⟨module, Document.extractModule_of_mem hmodules hmem, h.filesOf_module hs hm,
      fun stem hstem => h.file?_of_moduleStem hs hdeclared hstem⟩
  · rw [hmodules] at hmem
    cases hmem

/-- Where a module is emitted for two documents with the same components and the same paths of that
module, all its files are the same, whatever the other paths are and wherever they stand. -/
theorem filesOf_module_congr (hc : doc.components = doc'.components)
    (hp : doc.pathsOf name = doc'.pathsOf name) (hr : (run options doc).outcome = .ok output)
    (hr' : (run options doc').outcome = .ok output')
    (hne : output.filesOf (.module name) ≠ []) (hne' : output'.filesOf (.module name) ≠ []) :
    output.filesOf (.module name) = output'.filesOf (.module name) ∧
      ∀ stem ∈ moduleStems name,
        output.file? (options.fileName stem) = output'.file? (options.fileName stem) := by
  obtain ⟨module, hextract, hfiles, hstems⟩ := exists_module_of_filesOf hr hne
  obtain ⟨module', hextract', hfiles', hstems'⟩ := exists_module_of_filesOf hr' hne'
  have hmodule : module = module' := by
    rw [Document.extractModule_congr hc hp, hextract'] at hextract
    exact (Except.ok.inj hextract).symm
  have heq : output.filesOf (.module name) = output'.filesOf (.module name) := by
    rw [hfiles, hfiles', hmodule]
  refine ⟨heq, fun stem hstem => ?_⟩
  rw [hstems stem hstem, hstems' stem hstem, heq]

/-- The paths of one module. -/
def pathsOfOne : Document := .ofKeys ["/user-list", "/user-list/\x7bid\x7d"] []

/-- The same paths among those of others, of which one asks for the same identifier. -/
def pathsAmongOthers : Document :=
  .ofKeys ["/orders", "/user-list", "/", "/userList", "//user-lists", "/user-list/\x7bid\x7d"] []

theorem filesOf_module_congr_amongOthers : pathsOfOne.components = pathsAmongOthers.components ∧
    pathsOfOne.pathsOf "user-list" = pathsAmongOthers.pathsOf "user-list" ∧
    ∃ output output', (run {} pathsOfOne).outcome = .ok output ∧
      (run {} pathsAmongOthers).outcome = .ok output' ∧
      (output.filesOf (.module "user-list")).length = 4 ∧ output'.failures ≠ [] ∧
      output.filesOf (.module "user-list") = output'.filesOf (.module "user-list") := by
  have hc : pathsOfOne.components = pathsAmongOthers.components := rfl
  have hp : pathsOfOne.pathsOf "user-list" = pathsAmongOthers.pathsOf "user-list" := rfl
  have hrun : (run {} pathsOfOne).outcome.map
      (fun output => (output.filesOf (.module "user-list")).length) = .ok 4 := by
    decide +kernel
  have hrun' : (run {} pathsAmongOthers).outcome.map
      (fun output => ((output.filesOf (.module "user-list")).length,
        output.failures.map ItemFailure.item)) = .ok (4, [.module "userList"]) := by
    decide +kernel
  obtain ⟨output, hr, hlength⟩ := map_eq_ok_iff.mp hrun
  obtain ⟨output', hr', hvalue⟩ := map_eq_ok_iff.mp hrun'
  obtain ⟨hlength', hfailures⟩ := Prod.mk.inj hvalue
  have hne : output.filesOf (.module "user-list") ≠ [] := by
    intro hnil
    rw [hnil] at hlength
    cases hlength
  have hne' : output'.filesOf (.module "user-list") ≠ [] := by
    intro hnil
    rw [hnil] at hlength'
    cases hlength'
  refine ⟨hc, hp, output, output', hr, hr', hlength, ?_, ?_⟩
  · intro hnil
    rw [hnil] at hfailures
    cases hfailures
  · exact (filesOf_module_congr hc hp hr hr' hne hne').1

end Generation
end OpenApiGen
