import OpenApiGen.Handler
import Mathlib.Data.List.Induction
import Mathlib.Data.List.Nodup

/-! # The first handler of a module whose name is taken -/

namespace OpenApiGen.Handler

/-- The second handler is the first one whose name is taken, and the other one has it. -/
def FirstCollision (handlers : List Handler) (first second : Handler) : Prop :=
  ∃ before after, handlers = before ++ second :: after ∧ (before.map name).Nodup ∧
    first ∈ before ∧ first.name = second.name

theorem FirstCollision.sublist {handlers : List Handler} {first second : Handler}
    (h : FirstCollision handlers first second) : [first, second].Sublist handlers := by
  obtain ⟨before, after, rfl, -, hfirst, -⟩ := h
  have hsecond : [second].Sublist (second :: after) :=
    List.singleton_sublist.mpr (List.mem_cons_self ..)
  exact (List.singleton_sublist.mpr hfirst).append hsecond

/-- From the right: the last handler has a name of its own, or that of one before it. -/
theorem nodup_or_firstCollision (handlers : List Handler) :
    (handlers.map name).Nodup ∨ ∃ first second, FirstCollision handlers first second := by
  induction handlers using List.reverseRecOn with
  | nil => exact .inl List.nodup_nil
  | append_singleton handlers last ih =>
    rcases ih with hnodup | ⟨first, second, before, after, rfl, hcollision⟩
    · by_cases htaken : last.name ∈ handlers.map name
      · obtain ⟨first, hfirst, hname⟩ := List.mem_map.mp htaken
        exact .inr ⟨first, last, handlers, [], rfl, hnodup, hfirst, hname⟩
      · left
        rw [List.map_append, List.map_singleton]
        exact List.nodup_append_comm.mp (List.nodup_cons.mpr ⟨htaken, hnodup⟩)
    · exact .inr ⟨first, second, before, after ++ [last], by simp, hcollision⟩

/-- Handlers of distinct names are added. -/
theorem addDistinct_append (taken : List Handler) {before : List Handler}
    (h : ((taken ++ before).map name).Nodup) (rest : List Handler) :
    addDistinct taken (before ++ rest) = addDistinct (taken ++ before) rest := by
  induction before generalizing taken with
  | nil => rw [List.append_nil, List.nil_append]
  | cons handler before ih =>
    have hfree : taken.find? (·.name == handler.name) = none := by
      rw [List.find?_eq_none]
      intro other ho hname
      rw [List.map_append, List.nodup_append] at h
      exact h.2.2 _ (List.mem_map_of_mem ho) _ (List.mem_map_of_mem (List.mem_cons_self ..))
        (eq_of_beq hname)
    rw [List.append_cons] at h
    rw [List.cons_append, addDistinct, hfree, List.append_cons taken handler before]
    exact ih (taken ++ [handler]) h

theorem addDistinct_taken {taken rest : List Handler} {first second : Handler}
    (h : (taken.map name).Nodup) (hfirst : first ∈ taken) (hname : first.name = second.name) :
    addDistinct taken (second :: rest) =
      .error (.namingCollision second.name first.describe second.describe) := by
  have hfound : taken.find? (·.name == second.name) = some first := by
    cases hf : taken.find? (·.name == second.name) with
    | none => simpa [hname] using List.find?_eq_none.mp hf first hfirst
    | some other =>
      have hother : other.name = second.name := by simpa using List.find?_some hf
      rw [List.inj_on_of_nodup_map h (List.mem_of_find?_eq_some hf) hfirst
        (hother.trans hname.symm)]
  rw [addDistinct, hfound]

variable {module : ModuleRoutes} {handlers : List Handler}

theorem ofModule_of_nodup (h : ((candidates module).map name).Nodup) :
    ofModule module = .ok (candidates module) := by
  have hadded := addDistinct_append [] h []
  rwa [List.append_nil] at hadded

theorem ofModule_of_firstCollision {first second : Handler}
    (h : FirstCollision (candidates module) first second) :
    ofModule module = .error (.namingCollision second.name first.describe second.describe) := by
  obtain ⟨before, after, heq, hnodup, hfirst, hname⟩ := h
  rw [ofModule, heq, addDistinct_append [] hnodup]
  exact addDistinct_taken hnodup hfirst hname

theorem ofModule_eq_ok_iff :
    ofModule module = .ok handlers ↔ handlers = candidates module ∧ (handlers.map name).Nodup := by
  constructor
  · intro h
    rcases nodup_or_firstCollision (candidates module) with hnodup | ⟨first, second, hcollision⟩
    · rw [ofModule_of_nodup hnodup] at h
      cases h
      exact ⟨rfl, hnodup⟩
    · rw [ofModule_of_firstCollision hcollision] at h
      cases h
  · rintro ⟨rfl, hnodup⟩
    exact ofModule_of_nodup hnodup

theorem ofModule_eq_error_iff {failure : Failure} :
    ofModule module = .error failure ↔ ∃ first second,
      FirstCollision (candidates module) first second ∧
        failure = .namingCollision second.name first.describe second.describe := by
  constructor
  · intro h
    rcases nodup_or_firstCollision (candidates module) with hnodup | ⟨first, second, hcollision⟩
    · rw [ofModule_of_nodup hnodup] at h
      cases h
    · rw [ofModule_of_firstCollision hcollision] at h
      cases h
      exact ⟨first, second, hcollision, rfl⟩
  · rintro ⟨first, second, hcollision, rfl⟩
    exact ofModule_of_firstCollision hcollision

theorem ofModule_eq_candidates (h : ofModule module = .ok handlers) :
    handlers = candidates module :=
  (ofModule_eq_ok_iff.mp h).1

theorem nodup_names (h : ofModule module = .ok handlers) : (handlers.map name).Nodup :=
  (ofModule_eq_ok_iff.mp h).2

end OpenApiGen.Handler
