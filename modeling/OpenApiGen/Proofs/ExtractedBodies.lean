import OpenApiGen.Proofs.ExtractedItems
import OpenApiGen.Proofs.HandlerCollisions

/-! # The bodies of a module's handlers, and the schemas that they were flattened from -/

namespace OpenApiGen

namespace RequestBody

theorem exists_flatten_of_extract {doc : Document} {source : Referable BodyEntry}
    {body : RequestBody} (h : (extract doc source).value = some body) :
    ∃ schema, (flatten doc schema).value = some body ∧
      (flatten doc schema).events ⊆ (extract doc source).events := by
  have hentry : ∀ entry, (ofEntry doc entry).value = some body →
      ∃ schema, (flatten doc schema).value = some body ∧
        (flatten doc schema).events ⊆ (ofEntry doc entry).events := by
    intro entry he
    unfold ofEntry at he ⊢
    split at he
    · cases he
    · rename_i schema hs
      exact ⟨schema, he, List.Subset.refl _⟩
  cases source with
  | inline entry => exact hentry entry h
  | reference pointer =>
    unfold extract at h ⊢
    simp only at h ⊢
    split at h
    · rename_i entry _
      exact hentry entry h
    · cases h

end RequestBody

namespace Document

variable {doc : Document} {bearer path : String}

theorem exists_flatten_of_extractMethod {verb : Verb} {operation : Operation} {method : Method}
    (h : (doc.extractMethod bearer path verb operation).outcome = .ok method) {body : RequestBody}
    (hb : method.body = some body) :
    ∃ schema, (RequestBody.flatten doc schema).value = some body ∧
      (RequestBody.flatten doc schema).events
        ⊆ (doc.extractMethod bearer path verb operation).events := by
  unfold extractMethod at h ⊢
  simp only [Attempt.outcome_bind, bind_eq_ok_iff] at h
  obtain ⟨parameters, hparameters, h⟩ := h
  cases hsource : operation.requestBody with
  | none =>
    simp only [hsource, Attempt.outcome_bind, Attempt.outcome_pure, Attempt.outcome_report,
      ok_bind, Except.ok.injEq] at h
    cases h
    cases hb
  | some source =>
    simp only [hsource, Attempt.outcome_bind, Attempt.outcome_lift, Attempt.outcome_pure,
      Attempt.outcome_report, ok_bind, Except.ok.injEq] at h
    cases h
    obtain ⟨schema, hvalue, hevents⟩ := RequestBody.exists_flatten_of_extract hb
    refine ⟨schema, hvalue, ?_⟩
    refine List.Subset.trans ?_ (Attempt.events_subset_bind hparameters _).2
    refine List.Subset.trans ?_ (Attempt.events_subset_bind (Attempt.outcome_lift _) _).1
    rwa [Attempt.events_lift]

theorem exists_flatten_of_extractRoute {item : PathItem} {route : Route}
    (h : (doc.extractRoute bearer path item).outcome = .ok route) {method : Method}
    (hm : method ∈ route.methods) {body : RequestBody} (hb : method.body = some body) :
    ∃ schema, (RequestBody.flatten doc schema).value = some body ∧
      (RequestBody.flatten doc schema).events ⊆ (doc.extractRoute bearer path item).events := by
  unfold extractRoute at h ⊢
  rw [Attempt.outcome_bind, bind_eq_ok_iff] at h
  obtain ⟨methods, hmethods, h⟩ := h
  cases h
  obtain ⟨entry, -, hmethod, hevents⟩ := Attempt.exists_of_mem_mapM hmethods hm
  obtain ⟨schema, hvalue, hreported⟩ := exists_flatten_of_extractMethod hmethod hb
  refine ⟨schema, hvalue, List.Subset.trans (List.Subset.trans hreported hevents) ?_⟩
  exact (Attempt.events_subset_bind hmethods _).1

theorem exists_flatten_of_extractModule {name : String} {module : ModuleRoutes}
    (h : (doc.extractModule bearer name).outcome = .ok module) {route : Route}
    (hr : route ∈ module.routes) {method : Method} (hm : method ∈ route.methods)
    {body : RequestBody} (hb : method.body = some body) :
    ∃ schema, (RequestBody.flatten doc schema).value = some body ∧
      (RequestBody.flatten doc schema).events ⊆ (doc.extractModule bearer name).events := by
  unfold extractModule at h ⊢
  rw [Attempt.outcome_bind, bind_eq_ok_iff] at h
  obtain ⟨routes, hroutes, h⟩ := h
  cases h
  obtain ⟨entry, -, hroute, hevents⟩ := Attempt.exists_of_mem_mapM hroutes hr
  obtain ⟨schema, hvalue, hreported⟩ := exists_flatten_of_extractRoute hroute hm hb
  refine ⟨schema, hvalue, List.Subset.trans (List.Subset.trans hreported hevents) ?_⟩
  exact (Attempt.events_subset_bind hroutes _).1

theorem extractModule_of_mem {modules : List ModuleRoutes}
    (h : (doc.extractModules bearer).outcome = .ok modules) {module : ModuleRoutes}
    (hm : module ∈ modules) : (doc.extractModule bearer module.module).outcome = .ok module := by
  unfold extractModules at h
  simp only [Attempt.outcome_bind, Attempt.outcome_lift, Attempt.outcome_report, ok_bind] at h
  obtain ⟨name, -, hmodule, -⟩ := Attempt.exists_of_mem_mapM h hm
  rwa [module_of_extractModule hmodule]

end Document

/-- An operation that takes a body of this schema. -/
def Operation.ofBody (schema : Schema) : Operation where
  operationId := none
  summary := none
  parameters := none
  requestBody := some (.inline ⟨none, [(RequestBody.mediaType, ⟨some schema⟩)], none⟩)
  security := none

namespace Document

/-- The document with one path, which takes bodies of these schemas. -/
def ofBodies (path : String) (bodies : List (Verb × Schema)) (schemas : List (String × Schema)) :
    Document where
  openapi := "3.0.0"
  info := ⟨"Bodies", "1", none⟩
  paths := [(path, bodies.map fun body => (body.1, .ofBody body.2))]
  components := { schemas := schemas }

theorem extractMethod_ofBody {doc : Document} {bearer path : String} {verb : Verb} {schema : Schema}
    {body : RequestBody} (h : (RequestBody.flatten doc schema).value = some body) :
    (doc.extractMethod bearer path verb (.ofBody schema)).outcome
      = .ok ⟨verb, [], some body, false⟩ := by
  have hbody : (RequestBody.extract doc
      (.inline ⟨none, [(RequestBody.mediaType, ⟨some schema⟩)], none⟩)).value = some body := by
    simp only [RequestBody.extract, RequestBody.ofEntry, KeyedList.find?, if_true, Option.bind_some]
    exact h
  unfold extractMethod
  simp only [Operation.ofBody, Attempt.outcome_bind, Attempt.outcome_lift, hbody, ok_bind,
    Attempt.outcome_report]
  rfl

theorem extractModules_ofBodies (path name : String) (bodies : List (Verb × Schema))
    (schemas : List (String × Schema)) (flattened : List (Verb × RequestBody))
    (hname : moduleOf? path = some name)
    (h : List.Forall₂ (fun body result => body.1 = result.1 ∧
      (RequestBody.flatten (ofBodies path bodies schemas) body.2).value = some result.2)
      bodies flattened) (bearer : String) :
    ((ofBodies path bodies schemas).extractModules bearer).outcome = .ok [⟨name,
      [⟨routeTemplate path, path,
        flattened.map fun result => ⟨result.1, [], some result.2, false⟩⟩]⟩] := by
  have hpaths : (ofBodies path bodies schemas).paths =
    [(path, bodies.map fun body => (body.1, .ofBody body.2))] := rfl
  have hmodules : (ofBodies path bodies schemas).modules = [name] := by
    simp [modules, hpaths, hname, addModule]
  have hmethods : ((ofBodies path bodies schemas).extractRoute bearer path
      (bodies.map fun body => (body.1, .ofBody body.2))).outcome = .ok ⟨routeTemplate path, path,
        flattened.map fun result => ⟨result.1, [], some result.2, false⟩⟩ := by
    unfold extractRoute
    rw [Attempt.outcome_bind, bind_eq_ok_iff]
    refine ⟨_, ?_, rfl⟩
    rw [Attempt.outcome_mapM, mapM_eq_ok_iff, List.forall₂_map_left_iff, List.forall₂_map_right_iff]
    refine h.imp ?_
    rintro ⟨verb, schema⟩ ⟨_, body⟩ ⟨rfl, hbody⟩
    exact extractMethod_ofBody hbody
  rw [extractModules_eq_ok_iff, hmodules]
  refine .cons ?_ .nil
  simp only [extractModule, hpaths, List.filter_cons, List.filter_nil, hname, decide_true, if_true,
    List.mapM_cons, List.mapM_nil, Attempt.outcome_bind, hmethods, ok_bind, Attempt.outcome_pure]

end Document

namespace Handler

/-- The body of a handler was flattened from a schema when its module was extracted. -/
theorem exists_flatten_of_ofModule {doc : Document} {bearer : String} {module : ModuleRoutes}
    (hmodule : (doc.extractModule bearer module.module).outcome = .ok module)
    {handlers : List Handler} (hhandlers : ofModule module = .ok handlers) {handler : Handler}
    (hh : handler ∈ handlers) {body : RequestBody} (hb : handler.method.body = some body) :
    ∃ schema, (RequestBody.flatten doc schema).value = some body ∧
      (RequestBody.flatten doc schema).events ⊆ (doc.extractModule bearer module.module).events := by
  rw [ofModule_eq_candidates hhandlers] at hh
  obtain ⟨route, hr, hh⟩ := List.mem_flatMap.mp hh
  obtain ⟨method, hm, rfl⟩ := List.mem_map.mp hh
  exact Document.exists_flatten_of_extractModule hmodule hr hm hb

end Handler
end OpenApiGen
