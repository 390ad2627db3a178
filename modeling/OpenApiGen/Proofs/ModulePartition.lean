import OpenApiGen.Proofs.DistinctKeys
import OpenApiGen.Proofs.ExtractedBodies
import Mathlib.Data.List.Induction

/-! # The modules of a document partition its paths, and the handlers of a module its operations -/

namespace OpenApiGen

/-- A method stands for an operation: the same verb, and one parameter for each declared one. -/
structure Method.Describes (doc : Document) (bearer path : String) (operation : Verb × Operation)
    (method : Method) : Prop where
  verb : method.verb = operation.1
  parameters : List.Forall₂ (fun entry parameter =>
      Parameter.resolve doc (Document.operationContext operation.1 path) entry = .ok parameter)
    (operation.2.parameters.getD []) method.parameters
  body : method.body = operation.2.requestBody.bind fun body => (RequestBody.extract doc body).value
  requiresAuth : method.requiresAuth = doc.requiresBearer bearer operation.2

/-- A route stands for a path, and its methods for the operations of that path. -/
structure Route.Describes (doc : Document) (bearer : String) (entry : String × PathItem)
    (route : Route) : Prop where
  sourcePath : route.sourcePath = entry.1
  template : route.template = routeTemplate entry.1
  methods : List.Forall₂ (Method.Describes doc bearer entry.1) entry.2 route.methods

/-- A handler stands for an operation of a path. -/
structure Handler.Describes (doc : Document) (bearer : String)
    (operation : String × Verb × Operation) (handler : Handler) : Prop where
  sourcePath : handler.route.sourcePath = operation.1
  method : handler.method.Describes doc bearer operation.1 operation.2

namespace Document

variable {doc : Document} {bearer name : String}

/-- The module of each path that has one. -/
def moduleNames (doc : Document) : List String := (KeyedList.keys doc.paths).filterMap moduleOf?

def pathsOf (doc : Document) (module : String) : List (String × PathItem) :=
  doc.paths.filter fun (path, _) => moduleOf? path = some module

/-- The operations of a module, each under its path and its verb. -/
def operationsOf (doc : Document) (module : String) : List (String × Verb × Operation) :=
  (doc.pathsOf module).flatMap fun entry => entry.2.map fun operation => (entry.1, operation)

theorem modules_eq_foldl (doc : Document) : doc.modules = doc.moduleNames.foldl addModule [] := by
  rw [modules, moduleNames, KeyedList.keys, List.filterMap_map]
  rfl

/-- A module is added where it is named first. -/
theorem pairwise_foldl_addModule (names : List String) :
    (names.foldl addModule []).Pairwise fun a b => names.idxOf a < names.idxOf b := by
  -- from the right: the last name is new, and then behind all others, or nothing changes
  induction names using List.reverseRecOn with
  | nil => exact .nil
  | append_singleton names name ih =>
    have hmem : ∀ a ∈ names.foldl addModule [], a ∈ names := by
      intro a ha
      simpa [mem_foldl_addModule] using ha
    have hstay : ∀ a ∈ names.foldl addModule [],
        (names ++ [name]).idxOf a = names.idxOf a := fun a ha =>
      List.idxOf_append_of_mem (hmem a ha)
    have hearlier : (names.foldl addModule []).Pairwise fun a b =>
        (names ++ [name]).idxOf a < (names ++ [name]).idxOf b :=
      ih.imp_of_mem fun {a b} ha hb h => by rwa [hstay a ha, hstay b hb]
    rw [List.foldl_append, List.foldl_cons, List.foldl_nil, addModule]
    split
    · exact hearlier
    · rename_i hnew
      rw [List.pairwise_append]
      refine ⟨hearlier, List.pairwise_singleton .., fun a ha b hb => ?_⟩
      have hnotMem : name ∉ names := by simpa [mem_foldl_addModule] using hnew
      rw [List.mem_singleton.mp hb, hstay a ha, List.idxOf_append_of_notMem hnotMem]
      have hlt := List.idxOf_lt_length_of_mem (hmem a ha)
      omega

theorem describes_of_extractMethod {path : String} {verb : Verb} {operation : Operation}
    {method : Method} (h : (doc.extractMethod bearer path verb operation).outcome = .ok method) :
    method.Describes doc bearer path (verb, operation) := by
  unfold extractMethod at h
  simp only [Attempt.outcome_bind, bind_eq_ok_iff] at h
  obtain ⟨parameters, hparameters, h⟩ := h
  have hresolved := mapM_eq_ok_iff.mp hparameters
  cases hsource : operation.requestBody with
  | none =>
    simp only [hsource, Attempt.outcome_bind, Attempt.outcome_pure, Attempt.outcome_report,
      ok_bind, Except.ok.injEq] at h
    cases h
    exact ⟨rfl, hresolved, by simp [hsource], rfl⟩
  | some source =>
    simp only [hsource, Attempt.outcome_bind, Attempt.outcome_lift, Attempt.outcome_pure,
      Attempt.outcome_report, ok_bind, Except.ok.injEq] at h
    cases h
    exact ⟨rfl, hresolved, by simp [hsource], rfl⟩

theorem describes_of_extractRoute {entry : String × PathItem} {route : Route}
    (h : (doc.extractRoute bearer entry.1 entry.2).outcome = .ok route) :
    route.Describes doc bearer entry := by
  unfold extractRoute at h
  rw [Attempt.outcome_bind, bind_eq_ok_iff] at h
  obtain ⟨methods, hmethods, h⟩ := h
  rw [Attempt.outcome_mapM, mapM_eq_ok_iff] at hmethods
  cases h
  exact ⟨rfl, rfl, hmethods.imp fun _ _ h => describes_of_extractMethod h⟩

theorem describes_of_extractModule {module : ModuleRoutes}
    (h : (doc.extractModule bearer name).outcome = .ok module) :
    List.Forall₂ (Route.Describes doc bearer) (doc.pathsOf name) module.routes := by
  unfold extractModule at h
  rw [Attempt.outcome_bind, bind_eq_ok_iff] at h
  obtain ⟨routes, hroutes, h⟩ := h
  rw [Attempt.outcome_mapM, mapM_eq_ok_iff] at hroutes
  cases h
  exact hroutes.imp fun _ _ h => describes_of_extractRoute h

theorem sourcePaths_of_describes {entries : List (String × PathItem)} {routes : List Route}
    (h : List.Forall₂ (Route.Describes doc bearer) entries routes) :
    routes.map Route.sourcePath = KeyedList.keys entries :=
  (map_eq_map_of_forall₂ (h.imp fun _ _ hr => hr.sourcePath.symm)).symm

theorem handlers_describe {module : ModuleRoutes}
    (h : (doc.extractModule bearer name).outcome = .ok module) {handlers : List Handler}
    (hh : Handler.ofModule module = .ok handlers) :
    List.Forall₂ (Handler.Describes doc bearer) (doc.operationsOf name) handlers := by
  rw [Handler.ofModule_eq_candidates hh]
  refine List.rel_flatMap (describes_of_extractModule h) fun entry route hroute => ?_
  rw [List.forall₂_map_left_iff, List.forall₂_map_right_iff]
  exact hroute.methods.imp fun _ _ hmethod => ⟨hroute.sourcePath, hmethod⟩

theorem mem_keys_pathsOf {path : String} :
    path ∈ KeyedList.keys (doc.pathsOf name) ↔
      path ∈ KeyedList.keys doc.paths ∧ moduleOf? path = some name := by
  simp only [KeyedList.keys, pathsOf, List.mem_map, List.mem_filter, decide_eq_true_iff]
  constructor
  · rintro ⟨entry, ⟨he, hm⟩, rfl⟩
    exact ⟨⟨entry, he, rfl⟩, hm⟩
  · rintro ⟨⟨entry, he, rfl⟩, hm⟩
    exact ⟨entry, ⟨he, hm⟩, rfl⟩

theorem nodup_keys_pathsOf (hd : doc.DistinctKeys) (name : String) :
    (KeyedList.keys (doc.pathsOf name)).Nodup :=
  hd.paths.sublist (List.filter_sublist.map _)

/-- A path is one of one module alone. -/
theorem nodup_flatMap_pathsOf (hd : doc.DistinctKeys) :
    (doc.modules.flatMap fun name => KeyedList.keys (doc.pathsOf name)).Nodup := by
  rw [List.nodup_flatMap]
  refine ⟨fun name _ => nodup_keys_pathsOf hd name, doc.nodup_modules.imp ?_⟩
  intro name name' hne path hp hp'
  rw [mem_keys_pathsOf] at hp hp'
  exact hne (Option.some.inj (hp.2.symm.trans hp'.2))

theorem mem_flatMap_pathsOf {path : String} :
    path ∈ (doc.modules.flatMap fun name => KeyedList.keys (doc.pathsOf name)) ↔
      path ∈ KeyedList.keys doc.paths ∧ (moduleOf? path).isSome := by
  simp only [List.mem_flatMap, mem_keys_pathsOf, Option.isSome_iff_exists]
  constructor
  · rintro ⟨name, -, hp, hm⟩
    exact ⟨hp, name, hm⟩
  · rintro ⟨hp, name, hm⟩
    exact ⟨name, mem_modules.mpr ⟨path, hp, hm⟩, hp, hm⟩

theorem nodup_operationsOf (hd : doc.DistinctKeys) (name : String) :
    ((doc.operationsOf name).map fun operation => (operation.1, operation.2.1)).Nodup := by
  have hkeys : ((doc.operationsOf name).map fun operation => (operation.1, operation.2.1)) =
      (doc.pathsOf name).flatMap fun entry => (entry.2.map Prod.fst).map (Prod.mk entry.1) := by
    simp [operationsOf, List.map_flatMap, Function.comp_def]
  rw [hkeys, List.nodup_flatMap]
  constructor
  · intro entry he
    have hverbs := hd.verbs entry (List.mem_of_mem_filter he)
    exact hverbs.map fun _ _ h => (Prod.mk.inj h).2
  · refine (List.pairwise_map.mp (nodup_keys_pathsOf hd name)).imp ?_
    intro entry entry' hne key hk hk'
    obtain ⟨verb, -, rfl⟩ := List.mem_map.mp hk
    obtain ⟨verb', -, hk'⟩ := List.mem_map.mp hk'
    exact hne (Prod.mk.inj hk').1.symm

/-- The modules stand in the order in which paths name them first, every path with a module is that
of one route, in the module that it names, and routes, methods, parameters and handlers stand in the
order of what they are made from. -/
theorem extractModules_partition (hd : doc.DistinctKeys) {modules : List ModuleRoutes}
    (h : (doc.extractModules bearer).outcome = .ok modules) :
    (∀ name, name ∈ modules.map ModuleRoutes.module ↔ name ∈ doc.moduleNames) ∧
    (modules.map ModuleRoutes.module).Nodup ∧
    (modules.map ModuleRoutes.module).Pairwise
      (fun a b => doc.moduleNames.idxOf a < doc.moduleNames.idxOf b) ∧
    (modules.flatMap fun module => module.routes.map Route.sourcePath).Nodup ∧
    (∀ path, path ∈ (modules.flatMap fun module => module.routes.map Route.sourcePath) ↔
      path ∈ KeyedList.keys doc.paths ∧ (moduleOf? path).isSome) ∧
    ∀ module ∈ modules,
      List.Forall₂ (Route.Describes doc bearer) (doc.pathsOf module.module) module.routes ∧
      ∀ handlers, Handler.ofModule module = .ok handlers →
        List.Forall₂ (Handler.Describes doc bearer) (doc.operationsOf module.module) handlers ∧
        ((doc.operationsOf module.module).map
          fun operation => (operation.1, operation.2.1)).Nodup := by
  have hnames := names_of_extractModules h
  have hpaths : (modules.flatMap fun module => module.routes.map Route.sourcePath) =
      doc.modules.flatMap fun name => KeyedList.keys (doc.pathsOf name) := by
    rw [← hnames, List.flatMap_map]
    refine List.flatMap_congr fun module hm => ?_
    exact sourcePaths_of_describes (describes_of_extractModule (extractModule_of_mem h hm))
  rw [hpaths, hnames]
  refine ⟨fun name => ?_, doc.nodup_modules, ?_, nodup_flatMap_pathsOf hd,
    fun path => mem_flatMap_pathsOf, fun module hm => ?_⟩
  · rw [modules_eq_foldl, mem_foldl_addModule]
    simp
  · rw [modules_eq_foldl]
    exact pairwise_foldl_addModule doc.moduleNames
  · have hmodule := extractModule_of_mem h hm
    exact ⟨describes_of_extractModule hmodule, fun handlers hh =>
      ⟨handlers_describe hmodule hh, nodup_operationsOf hd module.module⟩⟩

/-- Paths of two modules in turn, with slashes in odd places, and one without a module. -/
def interleavedPaths : Document := .ofKeys ["/users", "orders/", "/", "//users/{id}"] []

theorem extractModules_partition_interleaved : interleavedPaths.DistinctKeys ∧
    ∃ modules, (interleavedPaths.extractModules "bearerAuth").outcome = .ok modules ∧
      modules.map ModuleRoutes.module = ["users", "orders"] ∧
      (modules.flatMap fun module => module.routes.map Route.sourcePath).Nodup ∧
      ∃ module ∈ modules, ∃ handlers, Handler.ofModule module = .ok handlers ∧
        handlers.map Handler.name = ["getUsers", "getUsersId"] ∧
        List.Forall₂ (Handler.Describes interleavedPaths "bearerAuth")
          (interleavedPaths.operationsOf "users") handlers := by
  have hd : interleavedPaths.DistinctKeys := distinctKeys_ofKeys (by decide) (by decide)
  have hvalue : (interleavedPaths.extractModules "bearerAuth").outcome.map (fun modules =>
      modules.map fun module => (module.module,
        (Handler.ofModule module).map fun handlers => handlers.map Handler.name))
      = .ok [("users", .ok ["getUsers", "getUsersId"]), ("orders", .ok ["getOrders"])] := by
    decide +kernel
  obtain ⟨modules, h, hmodules⟩ := map_eq_ok_iff.mp hvalue
  obtain ⟨-, -, -, hnodup, -, hpartition⟩ := extractModules_partition hd h
  obtain ⟨module, hm, hmodule⟩ : ∃ module ∈ modules, (module.module,
      (Handler.ofModule module).map fun handlers => handlers.map Handler.name)
        = ("users", .ok ["getUsers", "getUsersId"]) := by
    refine List.mem_map.mp ?_
    rw [hmodules]
    simp
  obtain ⟨hname, hhandlers⟩ := Prod.mk.inj hmodule
  obtain ⟨handlers, hh, hnames⟩ := map_eq_ok_iff.mp hhandlers
  have hfirst := congrArg (List.map Prod.fst) hmodules
  rw [List.map_map] at hfirst
  refine ⟨hd, modules, h, hfirst, hnodup, module, hm, handlers, hh, hnames, ?_⟩
  rw [← hname]
  exact ((hpartition module hm).2 handlers hh).1

end Document
end OpenApiGen
