import OpenApiGen.Proofs.ModuleBindings

/-!
# When two methods of a module get one name

The name of a handler begins with its verb in small letters, and the name of a route begins with a
capital or a digit. So both can be read off the name, and only methods of one verb collide.
-/

namespace OpenApiGen

namespace Naming

theorem lowercase_verb_name (verb : Verb) : Unicode.lowercase verb.name = verb.name := by
  cases verb <;> decide

theorem isLower_of_mem_verb (verb : Verb) : ∀ c ∈ verb.name.toList, c.isLower := by
  have hall : verb.name.toList.all Char.isLower := by
    cases verb <;> decide
  exact List.all_eq_true.mp hall

/-- The small letters that the name of a handler begins with are its verb. -/
theorem takeWhile_handlerName (verb : Verb) (route : String) :
    (handlerName verb.name route).toList.takeWhile Char.isLower = verb.name.toList := by
  have hroute : (routeChars route.toList).takeWhile Char.isLower = [] := by
    cases hr : routeChars route.toList with
    | nil => rfl
    | cons c rest =>
      have hc : c.isLower = false := isLower_head?_routeChars (by rw [hr, List.head?_cons])
      rw [List.takeWhile_cons, hc]
      rfl
  rw [toList_handlerName, lowercase_verb_name,
    List.takeWhile_append_of_pos (isLower_of_mem_verb verb), hroute, List.append_nil]

theorem handlerName_eq_iff {verb verb' : Verb} {route route' : String} :
    handlerName verb.name route = handlerName verb'.name route' ↔
      verb = verb' ∧ routeName route = routeName route' := by
  constructor
  · intro h
    have hverb : verb = verb' := by
      apply Verb.name_injective
      rw [← String.toList_inj, ← takeWhile_handlerName verb route, h, takeWhile_handlerName]
    subst hverb
    exact ⟨rfl, (String.append_right_inj _).mp h⟩
  · rintro ⟨rfl, h⟩
    rw [handlerName, handlerName, h]

end Naming

/-- The methods of a module, each with its route. -/
def ModuleRoutes.entries (module : ModuleRoutes) : List (Route × Method) :=
  module.routes.flatMap fun route => route.methods.map (Prod.mk route)

namespace Handler

/-- One verb, and routes of one name. -/
def NamedAlike (a b : Route × Method) : Prop :=
  a.2.verb = b.2.verb ∧ Naming.routeName a.1.template = Naming.routeName b.1.template

instance (a b : Route × Method) : Decidable (NamedAlike a b) := inferInstanceAs (Decidable (_ ∧ _))

def ofEntry (module : ModuleRoutes) (entry : Route × Method) : Handler :=
  ofMethod module.module entry.1 entry.2

theorem candidates_eq_map (module : ModuleRoutes) :
    candidates module = module.entries.map (ofEntry module) := by
  rw [candidates, ModuleRoutes.entries, List.map_flatMap]
  simp only [List.map_map]
  rfl

variable {module : ModuleRoutes}

theorem name_ofEntry_eq_iff {a b : Route × Method} :
    (ofEntry module a).name = (ofEntry module b).name ↔ NamedAlike a b :=
  Naming.handlerName_eq_iff

theorem nodup_names_iff {entries : List (Route × Method)} :
    ((entries.map (ofEntry module)).map name).Nodup ↔
      entries.Pairwise fun a b => ¬NamedAlike a b := by
  rw [List.Nodup, List.pairwise_map, List.pairwise_map]
  simp only [ne_eq, name_ofEntry_eq_iff]

/-- The handler that cannot be added, by its place among the methods of the module. -/
theorem firstCollision_candidates_iff {first second : Handler} :
    FirstCollision (candidates module) first second ↔ ∃ before repeated after earlier,
      module.entries = before ++ repeated :: after ∧
      (before.Pairwise fun a b => ¬NamedAlike a b) ∧ earlier ∈ before ∧
      NamedAlike earlier repeated ∧ first = ofEntry module earlier ∧
      second = ofEntry module repeated := by
  rw [candidates_eq_map]
  constructor
  · rintro ⟨_, _, heq, hnodup, hfirst, hname⟩
    obtain ⟨before, tail, hsplit, rfl, htail⟩ := List.map_eq_append_iff.mp heq
    obtain ⟨repeated, after, rfl, rfl, -⟩ := List.map_eq_cons_iff.mp htail
    obtain ⟨earlier, hearlier, rfl⟩ := List.mem_map.mp hfirst
    exact ⟨before, repeated, after, earlier, hsplit, nodup_names_iff.mp hnodup, hearlier,
      name_ofEntry_eq_iff.mp hname, rfl, rfl⟩
  · rintro ⟨before, repeated, after, earlier, hsplit, hdistinct, hearlier, halike, rfl, rfl⟩
    refine ⟨before.map (ofEntry module), after.map (ofEntry module), ?_,
      nodup_names_iff.mpr hdistinct, List.mem_map_of_mem hearlier, name_ofEntry_eq_iff.mpr halike⟩
    rw [hsplit, List.map_append, List.map_cons]

theorem exists_error_iff : (∃ failure, ofModule module = .error failure) ↔
    ¬module.entries.Pairwise fun a b => ¬NamedAlike a b := by
  rw [← nodup_names_iff, ← candidates_eq_map]
  constructor
  · rintro ⟨failure, h⟩ hnodup
    rw [ofModule_of_nodup hnodup] at h
    cases h
  · intro hrepeated
    obtain ⟨first, second, hcollision⟩ :=
      (nodup_or_firstCollision (candidates module)).resolve_left hrepeated
    exact ⟨_, ofModule_of_firstCollision hcollision⟩

/-- A module has no handlers exactly if two of its methods have one verb and routes of one name.
What is reported is the first method whose name is taken, and the earlier one that has it. Else
every method has its handler, and the handlers have distinct names for all that they name. -/
theorem ofModule_settles_names (module : ModuleRoutes) :
    ((∃ failure, ofModule module = .error failure) ↔
      ∃ a b, [a, b].Sublist module.entries ∧ NamedAlike a b) ∧
    (∀ failure, ofModule module = .error failure ↔ ∃ before repeated after earlier,
      module.entries = before ++ repeated :: after ∧
      (before.Pairwise fun a b => ¬NamedAlike a b) ∧ earlier ∈ before ∧
      NamedAlike earlier repeated ∧
      failure = .namingCollision
        (Naming.handlerName repeated.2.verb.name repeated.1.template)
        (Document.operationContext earlier.2.verb earlier.1.sourcePath)
        (Document.operationContext repeated.2.verb repeated.1.sourcePath)) ∧
    (∀ a b : Route × Method, a.2.verb ≠ b.2.verb →
      Naming.handlerName a.2.verb.name a.1.template ≠
        Naming.handlerName b.2.verb.name b.1.template) ∧
    ∀ handlers, ofModule module = .ok handlers →
      handlers = module.entries.map (ofEntry module) ∧
      (handlers.map fun handler => (handler.route, handler.method)) = module.entries ∧
      (handlers.map name).Nodup ∧ (handlers.map typeName).Nodup ∧
      (handlers.map schemaConst).Nodup ∧ (handlers.map schemaType).Nodup := by
  refine ⟨?_, fun failure => ?_, fun a b hverb hname => ?_, fun handlers h => ?_⟩
  · rw [exists_error_iff, List.pairwise_iff_forall_sublist]
    simp only [not_forall, not_not, exists_prop]
  · rw [ofModule_eq_error_iff]
    simp only [firstCollision_candidates_iff]
    constructor
    · rintro ⟨_, _, ⟨before, repeated, after, earlier, hsplit, hdistinct, hearlier, halike, rfl, rfl⟩,
        rfl⟩
      exact ⟨before, repeated, after, earlier, hsplit, hdistinct, hearlier, halike, rfl⟩
    · rintro ⟨before, repeated, after, earlier, hsplit, hdistinct, hearlier, halike, rfl⟩
      exact ⟨_, _, ⟨before, repeated, after, earlier, hsplit, hdistinct, hearlier, halike, rfl, rfl⟩,
        rfl⟩
  · exact hverb (Naming.handlerName_eq_iff.mp hname).1
  · have hall := candidates_eq_map module ▸ ofModule_eq_candidates h
    refine ⟨hall, ?_, nodup_names h, nodup_typeNames h, nodup_schemaConsts h, nodup_schemaTypes h⟩
    have hentry : (fun handler => (handler.route, handler.method)) ∘ ofEntry module = id := rfl
    rw [hall, List.map_map, hentry, List.map_id]

def methodOf (verb : Verb) : Method := ⟨verb, [], none, false⟩

def userById : Route := ⟨"/users/:id", "/users/\x7bid\x7d", [methodOf .get, methodOf .delete]⟩

/-- A user that is called like the parameter of the other path. -/
def userNamedId (verb : Verb) : Route := ⟨"/users/id", "/users/id", [methodOf .put, methodOf verb]⟩

theorem ofModule_settles_names_users :
    ofModule ⟨"users", [userById, userNamedId .delete]⟩ = .error
      (.namingCollision "deleteUsersId" "DELETE /users/\x7bid\x7d" "DELETE /users/id") ∧
    ∃ handlers, ofModule ⟨"users", [userById, userNamedId .post]⟩ = .ok handlers ∧
      handlers.map name = ["getUsersId", "deleteUsersId", "putUsersId", "postUsersId"] ∧
      (handlers.map schemaType).Nodup := by
  obtain ⟨-, hreported, -, -⟩ := ofModule_settles_names ⟨"users", [userById, userNamedId .delete]⟩
  obtain ⟨-, -, -, hnamed⟩ := ofModule_settles_names ⟨"users", [userById, userNamedId .post]⟩
  constructor
  · exact (hreported _).mpr ⟨[(userById, methodOf .get), (userById, methodOf .delete),
      (userNamedId .delete, methodOf .put)], (userNamedId .delete, methodOf .delete), [],
      (userById, methodOf .delete), rfl, by decide, by simp, by decide, rfl⟩
  · obtain ⟨-, -, -, -, -, hdistinct⟩ := hnamed _ rfl
    exact ⟨_, rfl, by decide, hdistinct⟩

end Handler
end OpenApiGen
