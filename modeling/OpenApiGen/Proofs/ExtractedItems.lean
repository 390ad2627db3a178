import OpenApiGen.Entity
import OpenApiGen.Route
import OpenApiGen.Proofs.Runs

/-! # The modules and entities that are extracted from a document -/

namespace OpenApiGen

namespace Document

variable {doc : Document}

theorem mem_foldl_addModule {modules names : List String} {module : String} :
    module ∈ names.foldl addModule modules ↔ module ∈ modules ∨ module ∈ names := by
  induction names generalizing modules with
  | nil => simp
  | cons name names ih =>
    rw [List.foldl_cons, ih, addModule]
    by_cases hname : name ∈ modules
    · simp only [List.contains_iff_mem, hname, if_true, List.mem_cons]
      constructor
      · rintro (h | h)
        · exact .inl h
        · exact .inr (.inr h)
      · rintro (h | rfl | h)
        · exact .inl h
        · exact .inl hname
        · exact .inr h
    · simp [hname, or_assoc]

/-- The modules are the first segments of the paths. -/
theorem mem_modules {module : String} :
    module ∈ doc.modules ↔ ∃ path ∈ KeyedList.keys doc.paths, moduleOf? path = some module := by
  simp [modules, mem_foldl_addModule, KeyedList.keys]

theorem nodup_foldl_addModule {modules names : List String} (h : modules.Nodup) :
    (names.foldl addModule modules).Nodup := by
  induction names generalizing modules with
  | nil => exact h
  | cons name names ih =>
    refine ih ?_
    unfold addModule
    split
    · exact h
    · rename_i hname
      rw [List.contains_iff_mem] at hname
      rw [List.nodup_append]
      refine ⟨h, by simp, ?_⟩
      rintro module hm _ hn rfl
      exact hname (List.mem_singleton.mp hn ▸ hm)

theorem nodup_modules (doc : Document) : doc.modules.Nodup := nodup_foldl_addModule List.nodup_nil

theorem module_of_extractModule {bearer name : String} {module : ModuleRoutes}
    (h : (doc.extractModule bearer name).outcome = .ok module) : module.module = name := by
  unfold extractModule at h
  rw [Attempt.outcome_bind, bind_eq_ok_iff] at h
  obtain ⟨routes, -, hroutes⟩ := h
  cases hroutes
  rfl

theorem extractModules_eq_ok_iff {bearer : String} {modules : List ModuleRoutes} :
    (doc.extractModules bearer).outcome = .ok modules ↔
      List.Forall₂ (fun name module => (doc.extractModule bearer name).outcome = .ok module)
        doc.modules modules := by
  unfold extractModules
  simp only [Attempt.outcome_bind, Attempt.outcome_lift, Attempt.outcome_report, ok_bind,
    Attempt.outcome_mapM, mapM_eq_ok_iff]
  rfl

theorem names_of_extractModules {bearer : String} {modules : List ModuleRoutes}
    (h : (doc.extractModules bearer).outcome = .ok modules) :
    modules.map ModuleRoutes.module = doc.modules := by
  have hnames : List.Forall₂ (· = ·) doc.modules (modules.map ModuleRoutes.module) := by
    rw [List.forall₂_map_right_iff]
    exact (extractModules_eq_ok_iff.mp h).imp fun name module he => (module_of_extractModule he).symm
  rw [List.forall₂_eq_eq_eq] at hnames
  exact hnames.symm

end Document

namespace Entity

variable {doc : Document} {policy : ReferencePolicy}

/-- The schema whose name is the name of the entity and the suffix. -/
theorem of_ofSchemas {schemas : List (String × Schema)} {entities : List Entity}
    (h : (ofSchemas doc policy schemas).outcome = .ok entities) :
    ∀ entity ∈ entities, entity.schemaName ∈ KeyedList.keys schemas ∧
      stripSuffix? entity.schemaName = some entity.name := by
  induction schemas generalizing entities with
  | nil =>
    cases h
    simp
  | cons entry schemas ih =>
    obtain ⟨schemaName, schema⟩ := entry
    rw [ofSchemas] at h
    cases hs : stripSuffix? schemaName with
    | none =>
      simp only [hs] at h
      intro entity he
      obtain ⟨hk, hname⟩ := ih h entity he
      exact ⟨List.mem_cons_of_mem _ hk, hname⟩
    | some name =>
      simp only [hs] at h
      split at h
      · cases h
      · simp only [Attempt.outcome_bind, bind_eq_ok_iff, Attempt.outcome_pure] at h
        obtain ⟨properties, -, rest, hrest, h⟩ := h
        cases h
        intro entity he
        rcases List.mem_cons.mp he with rfl | he
        · exact ⟨List.mem_cons_self .., hs⟩
        · obtain ⟨hk, hname⟩ := ih hrest entity he
          exact ⟨List.mem_cons_of_mem _ hk, hname⟩

/-- Every schema with the suffix is an entity, in the order in which they are declared. -/
theorem schemaNames_of_ofSchemas {schemas : List (String × Schema)} {entities : List Entity}
    (h : (ofSchemas doc policy schemas).outcome = .ok entities) :
    entities.map schemaName =
      (KeyedList.keys schemas).filter fun name => (stripSuffix? name).isSome := by
  induction schemas generalizing entities with
  | nil =>
    cases h
    rfl
  | cons entry schemas ih =>
    obtain ⟨schemaName, schema⟩ := entry
    rw [ofSchemas] at h
    cases hs : stripSuffix? schemaName with
    | none =>
      simp only [hs] at h
      simp [hs, ih h]
    | some name =>
      simp only [hs] at h
      split at h
      · cases h
      · simp only [Attempt.outcome_bind, bind_eq_ok_iff, Attempt.outcome_pure] at h
        obtain ⟨properties, -, rest, hrest, h⟩ := h
        cases h
        simp [hs, ih hrest]

theorem schemaNames_of_extract {entities : List Entity}
    (h : (extract doc policy).outcome = .ok entities) :
    entities.map schemaName =
      (KeyedList.keys doc.components.schemas).filter fun name => (stripSuffix? name).isSome := by
  unfold extract at h
  simp only [Attempt.outcome_bind, Attempt.outcome_report, bind_eq_ok_iff] at h
  obtain ⟨found, hfound, -, -, h⟩ := h
  cases h
  exact schemaNames_of_ofSchemas hfound

theorem of_extract {entities : List Entity} (h : (extract doc policy).outcome = .ok entities) :
    ∀ entity ∈ entities, entity.schemaName ∈ KeyedList.keys doc.components.schemas ∧
      stripSuffix? entity.schemaName = some entity.name := by
  unfold extract at h
  simp only [Attempt.outcome_bind, Attempt.outcome_report, bind_eq_ok_iff] at h
  obtain ⟨found, hfound, -, -, h⟩ := h
  cases h
  exact of_ofSchemas hfound

end Entity
end OpenApiGen
