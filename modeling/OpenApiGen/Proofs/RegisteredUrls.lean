import OpenApiGen.Proofs.ModulePartition
import OpenApiGen.Proofs.ServedUrls
import OpenApiGen.Proofs.ServiceTypes

/-!
# The URLs under which a module registers its operations

Handlers are told apart by their names, which keep only the letters and digits of a route. This is
enough to keep their URLs apart: the name of a route is that of its module, followed by that of what
is left of the route behind the module.
-/

namespace OpenApiGen

namespace Naming

theorem routeChars_append_separator {c : Char} (h : c.isAlphanum = false) (front back : List Char) :
    routeChars (front ++ c :: back) = routeChars front ++ routeChars back := by
  unfold routeChars
  rw [List.splitOnP_append_cons front back (by rw [h]; rfl), List.flatMap_append]

@[simp] theorem routeChars_nil : routeChars [] = [] := rfl

@[simp] theorem routeChars_slash (cs : List Char) : routeChars ('/' :: cs) = routeChars cs :=
  routeChars_append_separator (by decide) [] cs

theorem routeChars_dropLeading (cs : List Char) :
    routeChars (Text.dropLeading '/' cs) = routeChars cs := by
  induction cs with
  | nil => rfl
  | cons c cs ih =>
    by_cases hc : c = '/'
    · rw [hc, Text.dropLeading_cons_self, routeChars_slash]
      exact ih
    · rw [Text.dropLeading_cons_of_ne hc]

theorem routeChars_append_segments {front rest : List Char}
    (hs : rest = [] ∨ ∃ tail, rest = '/' :: tail) :
    routeChars (front ++ rest) = routeChars front ++ routeChars rest := by
  rcases hs with rfl | ⟨tail, rfl⟩
  · simp
  · rw [routeChars_append_separator (by decide), routeChars_slash]

theorem routeChars_relativeRoute {module route : String} {rest : List Char}
    (hr : Text.dropLeading '/' route.toList = (routeTemplate module).toList ++ rest)
    (hs : rest = [] ∨ ∃ tail, rest = '/' :: tail) :
    routeChars (relativeRoute module route).toList = routeChars rest := by
  obtain ⟨hnil, hcons⟩ := relativeRoute_of_prefix hr
  rcases hs with rfl | ⟨tail, rfl⟩
  · rw [hnil rfl]
    rfl
  · rw [hcons tail rfl, String.toList_ofList]

/-- A module of closing braces alone has nothing that could stand in front of a route. -/
theorem routeChars_relativeRoute_of_nil {module : String} (h : (routeTemplate module).toList = [])
    (route : String) : routeChars (relativeRoute module route).toList = routeChars route.toList := by
  have hroute := routeChars_dropLeading route.toList
  unfold relativeRoute
  simp only [h, Text.after?]
  cases hd : Text.dropLeading '/' route.toList with
  | nil =>
    rw [hd] at hroute
    have hslash : routeChars "/".toList = [] := rfl
    simpa [hslash] using hroute
  | cons c rest =>
    have hc : c ≠ '/' := Text.ne_of_dropLeading_eq_cons hd
    simp [hc]

theorem slash_not_mem_routeTemplate {name : String} (h : '/' ∉ name.toList) :
    '/' ∉ (routeTemplate name).toList := by
  rw [routeTemplate_toList, List.mem_flatMap]
  rintro ⟨c, hc, hslash⟩
  have hne : '/' ≠ c := fun he => h (he ▸ hc)
  unfold templateChar at hslash
  split at hslash
  · exact absurd hslash (by decide)
  · split at hslash
    · cases hslash
    · exact hne (List.mem_singleton.mp hslash)

/-- The name of a route, put together from its module and from what is left behind it. -/
theorem routeName_relativeRoute {module path : String} (h : moduleOf? path = some module) :
    routeName (routeTemplate path) =
      routeName (routeTemplate module) ++ routeName (relativeRoute module (routeTemplate path)) := by
  obtain ⟨-, hslash, rest, hr, hs⟩ := moduleOf?_eq_some h
  have hsegments : rest.flatMap templateChar = [] ∨
      ∃ tail, rest.flatMap templateChar = '/' :: tail := by
    rcases hs with rfl | ⟨tail, rfl⟩
    · exact .inl rfl
    · exact .inr ⟨tail.flatMap templateChar, rfl⟩
  have htrimmed : Text.dropLeading '/' (routeTemplate path).toList =
      Text.dropLeading '/' ((routeTemplate module).toList ++ rest.flatMap templateChar) := by
    rw [routeTemplate_toList path, Text.dropLeading_flatMap rfl, hr, List.flatMap_append,
      ← routeTemplate_toList]
  have hchars : routeChars (routeTemplate path).toList =
      routeChars (routeTemplate module).toList ++
        routeChars (relativeRoute module (routeTemplate path)).toList := by
    cases hm : (routeTemplate module).toList with
    | nil => rw [routeChars_relativeRoute_of_nil hm, routeChars_nil, List.nil_append]
    | cons c cs =>
      have hc : c ≠ '/' := by
        rintro rfl
        exact slash_not_mem_routeTemplate hslash (hm ▸ List.mem_cons_self ..)
      rw [hm, List.cons_append, Text.dropLeading_cons_of_ne hc, ← List.cons_append, ← hm] at htrimmed
      rw [routeChars_relativeRoute htrimmed hsegments, ← hm, ← routeChars_append_segments hsegments,
        ← htrimmed, routeChars_dropLeading]
  rw [← String.toList_inj, String.toList_append]
  simpa only [routeName, String.toList_ofList] using hchars

end Naming

namespace Handler

/-- The verb and the URL that a handler is registered with. -/
def registered (handler : Handler) : Verb × String := (handler.method.verb, handler.relativeRoute)

end Handler

namespace Document

/-- The verb of an operation, and its URL below the module. -/
def registrationOf (name : String) (operation : String × Verb × Operation) : Verb × String :=
  (operation.2.1, Naming.relativeRoute name (routeTemplate operation.1))

def handlerNameOf (operation : String × Verb × Operation) : String :=
  Naming.handlerName operation.2.1.name (routeTemplate operation.1)

end Document

/-- A handler of a module stands for an operation, under the name and the URL that it gets there. -/
structure Handler.Serves (doc : Document) (bearer module : String)
    (operation : String × Verb × Operation) (handler : Handler) : Prop where
  describes : handler.Describes doc bearer operation
  name : handler.name = Document.handlerNameOf operation
  registered : handler.registered = Document.registrationOf module operation

namespace Document

variable {doc : Document} {bearer name : String}

theorem moduleOf?_of_mem_operationsOf {operation : String × Verb × Operation}
    (h : operation ∈ doc.operationsOf name) : moduleOf? operation.1 = some name := by
  obtain ⟨entry, he, ho⟩ := List.mem_flatMap.mp h
  obtain ⟨verb, -, rfl⟩ := List.mem_map.mp ho
  simpa [pathsOf] using (List.mem_filter.mp he).2

/-- Operations that would be registered alike have one name. -/
theorem handlerNameOf_eq {a b : String × Verb × Operation} (ha : a ∈ doc.operationsOf name)
    (hb : b ∈ doc.operationsOf name) (h : registrationOf name a = registrationOf name b) :
    handlerNameOf a = handlerNameOf b := by
  obtain ⟨hverb, hurl⟩ := Prod.mk.inj h
  have hroute : Naming.routeName (routeTemplate a.1) = Naming.routeName (routeTemplate b.1) := by
    rw [Naming.routeName_relativeRoute (moduleOf?_of_mem_operationsOf ha),
      Naming.routeName_relativeRoute (moduleOf?_of_mem_operationsOf hb), hurl]
  unfold handlerNameOf Naming.handlerName
  rw [hverb, hroute]

theorem candidates_serve {module : ModuleRoutes}
    (h : (doc.extractModule bearer name).outcome = .ok module) :
    List.Forall₂ (Handler.Serves doc bearer name) (doc.operationsOf name)
      (Handler.candidates module) := by
  have hroutes := describes_of_extractModule h
  refine List.rel_flatMap hroutes fun entry route hroute => ?_
  rw [List.forall₂_map_left_iff, List.forall₂_map_right_iff]
  refine hroute.methods.imp fun operation method hmethod => ⟨⟨hroute.sourcePath, hmethod⟩, ?_, ?_⟩
  · unfold handlerNameOf
    rw [← hmethod.verb, ← hroute.template]
    rfl
  · unfold registrationOf
    rw [← hmethod.verb, ← hroute.template, ← module_of_extractModule h]
    simp only [Handler.registered, Handler.ofMethod]

theorem nodup_registrations (h : ((doc.operationsOf name).map handlerNameOf).Nodup) :
    ((doc.operationsOf name).map (registrationOf name)).Nodup := by
  have hnames := List.pairwise_map.mp h
  apply List.pairwise_map.mpr
  refine hnames.imp_of_mem fun {a b} ha hb hne hab => ?_
  exact hne (handlerNameOf_eq ha hb hab)

/-- A module with handlers registers no URL twice under one verb. Where two operations would share
both, the module has no handlers, and two operations of one name are reported as colliding. -/
theorem registrations_distinct_or_reported {modules : List ModuleRoutes}
    (h : (doc.extractModules bearer).outcome = .ok modules) {module : ModuleRoutes}
    (hm : module ∈ modules) :
    (∀ handlers, Handler.ofModule module = .ok handlers →
      (handlers.map Handler.registered).Nodup ∧
      (ModuleRouter.ofHandlers module.module handlers).registrations.map (fun r => (r.verb, r.url))
        = (doc.operationsOf module.module).map (registrationOf module.module)) ∧
    (¬((doc.operationsOf module.module).map (registrationOf module.module)).Nodup →
      ∃ first second, [first, second].Sublist (Handler.candidates module) ∧
        first.name = second.name ∧
        Handler.ofModule module =
          .error (.namingCollision first.name first.describe second.describe)) := by
  have hserve := candidates_serve (extractModule_of_mem h hm)
  have hnames : (Handler.candidates module).map Handler.name =
      (doc.operationsOf module.module).map handlerNameOf :=
    (map_eq_map_of_forall₂ (hserve.imp fun _ _ hs => hs.name.symm)).symm
  have hregistered : (Handler.candidates module).map Handler.registered =
      (doc.operationsOf module.module).map (registrationOf module.module) :=
    (map_eq_map_of_forall₂ (hserve.imp fun _ _ hs => hs.registered.symm)).symm
  have hdistinct : ∀ handlers, Handler.ofModule module = .ok handlers →
      ((doc.operationsOf module.module).map (registrationOf module.module)).Nodup := by
    intro handlers hh
    apply nodup_registrations
    rw [← hnames, ← Handler.ofModule_eq_candidates hh]
    exact Handler.nodup_names hh
  refine ⟨fun handlers hh => ?_, fun htwice => ?_⟩
  · have hall : handlers.map Handler.registered =
        (doc.operationsOf module.module).map (registrationOf module.module) := by
      rw [Handler.ofModule_eq_candidates hh, hregistered]
    refine ⟨hall ▸ hdistinct handlers hh, ?_⟩
    rw [← hall, ModuleRouter.ofHandlers, List.map_map]
    rfl
  · cases hh : Handler.ofModule module with
    | ok handlers => exact absurd (hdistinct handlers hh) htwice
    | error failure =>
      obtain ⟨first, second, hcollision, rfl⟩ := Handler.ofModule_eq_error_iff.mp hh
      have hsub := hcollision.sublist
      obtain ⟨-, -, -, -, -, hname⟩ := hcollision
      exact ⟨first, second, hsub, hname, by rw [hname]⟩

/-- A user has one URL in two spellings, and each order has one of its own. -/
def spelledTwice : Document :=
  .ofKeys ["/users/\x7bid\x7d", "/orders/", "//users/:id", "//orders/\x7bid\x7d"] []

theorem registrations_distinct_or_reported_spelledTwice :
    ∃ modules, (spelledTwice.extractModules "bearerAuth").outcome = .ok modules ∧
      (∃ users ∈ modules, users.module = "users" ∧
        ¬((spelledTwice.operationsOf "users").map (registrationOf "users")).Nodup ∧
        ∃ first second, [first, second].Sublist (Handler.candidates users) ∧
          first.name = second.name ∧ Handler.ofModule users =
            .error (.namingCollision first.name first.describe second.describe)) ∧
      ∃ orders ∈ modules, ∃ handlers, Handler.ofModule orders = .ok handlers ∧
        handlers.map Handler.registered = [(.get, "/"), (.get, "/:id")] ∧
        (handlers.map Handler.registered).Nodup := by
  have hvalue : (spelledTwice.extractModules "bearerAuth").outcome.map (fun modules =>
      modules.map fun module => (module.module,
        (Handler.ofModule module).map fun handlers => handlers.map Handler.registered))
      = .ok [("users", .error (.namingCollision "getUsersId" "GET /users/\x7bid\x7d"
          "GET //users/:id")),
        ("orders", .ok [(.get, "/"), (.get, "/:id")])] := by
    decide +kernel
  obtain ⟨modules, h, hmodules⟩ := map_eq_ok_iff.mp hvalue
  obtain ⟨users, orders, rfl⟩ := List.length_eq_two.mp (by simpa using congrArg List.length hmodules)
  simp only [List.map_cons, List.map_nil, List.cons.injEq, Prod.mk.injEq, and_true] at hmodules
  obtain ⟨⟨husers, -⟩, -, horders⟩ := hmodules
  obtain ⟨handlers, hh, hregistered⟩ := map_eq_ok_iff.mp horders
  have hu : users ∈ [users, orders] := List.mem_cons_self ..
  have ho : orders ∈ [users, orders] := List.mem_cons_of_mem _ (List.mem_cons_self ..)
  have htwice : ¬((spelledTwice.operationsOf "users").map (registrationOf "users")).Nodup := by
    decide +kernel
  refine ⟨_, h, ⟨users, hu, husers, htwice, ?_⟩, orders, ho, handlers, hh, hregistered, ?_⟩
  · exact (registrations_distinct_or_reported h hu).2 (husers ▸ htwice)
  · exact ((registrations_distinct_or_reported h ho).1 handlers hh).1

end Document
end OpenApiGen
