import OpenApiGen.Proofs.Aggregates
import OpenApiGen.Proofs.GuardedRoutes
import OpenApiGen.RequestSchema
import Mathlib.Data.List.Perm.Basic

/-!
# The names that the files of modules bind

In the router, the controller and the schemas of a module no name is bound twice. Most names are
told apart by their first or last letters; that no handler is called like the service takes counting
the letters of its verb, which the camel case of a module cannot bring up. The main router binds a
name of its own, which a module called `main` has too.
-/

namespace OpenApiGen

/-! ## First and last letters -/

theorem ne_of_getLast? {a b : String} {c : Char} (ha : a.toList.getLast? = some c)
    (hb : b.toList.getLast? ≠ some c) : a ≠ b := by
  rintro rfl
  exact hb ha

def startsSmall (name : String) : Bool := name.toList.head?.any Char.isLower

theorem ne_of_startsSmall {a b : String} (ha : startsSmall a = true) (hb : startsSmall b = false) :
    a ≠ b := by
  rintro rfl
  cases ha.symm.trans hb

theorem startsSmall_append (front back : String) : startsSmall (front ++ back) =
    (front.toList.head?.or back.toList.head?).any Char.isLower := by
  rw [startsSmall, String.toList_append, List.head?_append]

/-- Names of one kind in a list, put in front. -/
theorem nodup_of_marked {front marked back : List String} (hm : marked.Nodup)
    (ho : (front ++ back).Nodup) (hne : ∀ a ∈ marked, ∀ b ∈ front ++ back, a ≠ b) :
    (front ++ marked ++ back).Nodup := by
  have hperm : (front ++ marked ++ back).Perm (marked ++ (front ++ back)) := by
    rw [← List.append_assoc]
    exact List.perm_append_comm.append_right back
  exact hperm.nodup_iff.mpr (List.nodup_append.mpr ⟨hm, ho, hne⟩)

/-! ## Names of handlers -/

namespace Naming

theorem exists_plainLetter (verb : Verb) : ∃ letter ∈ plainLetters,
    0 < letterCount letter (Unicode.lowercase verb.name).toList := by
  cases verb with
  | get => exact ⟨'g', by decide, by decide⟩
  | put | post | options | patch => exact ⟨'p', by decide, by decide⟩
  | delete | head => exact ⟨'d', by decide, by decide⟩
  | trace => exact ⟨'a', by decide, by decide⟩

theorem ascii_lowercase_verb (verb : Verb) :
    ∀ c ∈ (Unicode.lowercase verb.name).toList, c.toNat < 128 := by
  have hall : (Unicode.lowercase verb.name).toList.all (·.toNat < 128) := by
    cases verb <;> decide
  exact fun c hc => of_decide_eq_true (List.all_eq_true.mp hall c hc)

theorem toList_handlerName (verb route : String) : (handlerName verb route).toList =
    (Unicode.lowercase verb).toList ++ routeChars route.toList := by
  rw [handlerName, String.toList_append, routeName, String.toList_ofList]

/-- The name of a handler has all plain letters of its path, and those of the verb besides. -/
theorem letterCount_handlerName {letter : Char} (hl : letter ∈ plainLetters) (verb path : String) :
    letterCount letter (Unicode.lowercase verb).toList + letterCount letter path.toList ≤
      letterCount letter (handlerName verb (routeTemplate path)).toList := by
  have hbraces : ∀ c ∈ path.toList, letterCount letter [c] ≤ letterCount letter (templateChar c) := by
    intro c _
    unfold templateChar
    split
    · rename_i hc
      rw [hc, letterCount_of_no_plain hl (by simp [plainLetters])]
      exact Nat.zero_le _
    · split
      · rename_i hc
        rw [hc, letterCount_of_no_plain hl (by simp [plainLetters])]
        exact Nat.zero_le _
      · exact Nat.le_refl _
  have htemplate := letterCount_flatMap_le hbraces
  rw [← routeTemplate_toList, List.flatMap_singleton'] at htemplate
  rw [toList_handlerName, letterCount_append, letterCount_routeChars hl]
  exact Nat.add_le_add_left htemplate _

/-- By counting a letter of the verb that is not in `Service`: the name has those of the module and
that of the verb, and its beginning is too short for both. -/
theorem handlerName_ne_serviceName {path module : String} (h : moduleOf? path = some module)
    (verb : Verb) :
    handlerName verb.name (routeTemplate path) ≠ ModuleController.serviceName module := by
  intro heq
  obtain ⟨letter, hl, hverb⟩ := exists_plainLetter verb
  have hservice : letterCount letter "Service".toList = 0 :=
    letterCount_of_no_plain hl (by simp [plainLetters])
  have hchars : (handlerName verb.name (routeTemplate path)).toList =
      (moduleIdentifier module).toList ++ "Service".toList := by
    rw [heq, ModuleController.serviceName, String.toList_append]
  have hascii : ∀ c ∈ (moduleIdentifier module).toList, c.toNat < 128 := by
    intro c hc
    have hmem : c ∈ (handlerName verb.name (routeTemplate path)).toList :=
      hchars ▸ List.mem_append_left _ hc
    rw [toList_handlerName] at hmem
    rcases List.mem_append.mp hmem with hmem | hmem
    · exact ascii_lowercase_verb verb c hmem
    · exact ascii_routeChars _ c hmem
  obtain ⟨-, -, rest, hrest, -⟩ := moduleOf?_eq_some h
  have hmodule : letterCount letter module.toList ≤ letterCount letter path.toList := by
    refine letterCount_le_of_sublist ?_
    have hfront : module.toList.Sublist (Text.dropLeading '/' path.toList) :=
      hrest ▸ List.sublist_append_left _ _
    exact hfront.trans (List.dropWhile_sublist _)
  have hname := letterCount_handlerName hl verb.name path
  have hidentifier := letterCount_moduleIdentifier_le hl hascii
  rw [hchars, letterCount_append, hservice] at hname
  omega

end Naming

namespace Handler

variable {doc : Document} {bearer : String} {module : ModuleRoutes} {handlers : List Handler}

theorem startsSmall_name (h : ofModule module = .ok handlers) {handler : Handler}
    (hh : handler ∈ handlers) :
    startsSmall handler.name = true ∧ startsSmall handler.typeName = false := by
  obtain ⟨route, method, rfl⟩ := exists_ofMethod h hh
  obtain ⟨c, hc, rest, hverb⟩ := Naming.lowercase_verb method.verb
  have hcase : ∀ c ∈ Naming.verbInitials, c.isLower = true ∧ c.toUpper.isLower = false := by
    simp [Naming.verbInitials]
  have hname : (ofMethod module.module route method).name.toList =
      c :: (rest ++ Naming.routeChars route.template.toList) := by
    simp [ofMethod, Naming.toList_handlerName, hverb]
  have htype : (ofMethod module.module route method).typeName.toList =
      c.toUpper :: (rest ++ Naming.routeChars route.template.toList) := by
    have hcapital : (ofMethod module.module route method).typeName =
        Naming.capitalize (ofMethod module.module route method).name := rfl
    rw [hcapital, Naming.capitalize, String.toList_ofList, hname, Naming.capitalizeChars,
      Naming.upperChar_verbInitials c hc]
    rfl
  rw [startsSmall, startsSmall, hname, htype]
  exact hcase c hc

theorem startsSmall_schemaConst (h : ofModule module = .ok handlers) {handler : Handler}
    (hh : handler ∈ handlers) :
    startsSmall handler.schemaConst = true ∧ startsSmall handler.schemaType = false := by
  obtain ⟨hname, htype⟩ := startsSmall_name h hh
  rw [schemaConst, schemaType, startsSmall_append, startsSmall_append]
  rw [startsSmall] at hname htype
  cases hn : handler.name.toList.head? with
  | none => simp [hn] at hname
  | some c =>
    rw [hn] at hname
    refine ⟨hname, ?_⟩
    cases ht : handler.typeName.toList.head? with
    | none => decide
    | some d =>
      rw [ht] at htype
      exact htype

theorem nodup_schemaConsts (h : ofModule module = .ok handlers) :
    (handlers.map schemaConst).Nodup := by
  have hnames := List.pairwise_map.mp (nodup_names h)
  refine List.pairwise_map.mpr (hnames.imp fun hne heq => hne ?_)
  exact (String.append_left_inj _).mp heq

theorem nodup_typeNames (h : ofModule module = .ok handlers) : (handlers.map typeName).Nodup := by
  have hnames := List.pairwise_map.mp (nodup_names h)
  refine List.pairwise_map.mpr (hnames.imp_of_mem fun {a b} ha hb hne heq => hne ?_)
  exact typeName_injective h ha hb heq

theorem nodup_schemaTypes (h : ofModule module = .ok handlers) :
    (handlers.map schemaType).Nodup := by
  have hnames := List.pairwise_map.mp (nodup_typeNames h)
  refine List.pairwise_map.mpr (hnames.imp fun hne heq => hne ?_)
  exact (String.append_left_inj _).mp heq

theorem getLast?_schemaType (handler : Handler) :
    handler.schemaType.toList.getLast? = some 'a' :=
  getLast?_append handler.typeName (by decide)

/-- No handler of a module has the name of its service. -/
theorem name_ne_serviceName (hm : (doc.extractModule bearer module.module).outcome = .ok module)
    (h : ofModule module = .ok handlers) {handler : Handler} (hh : handler ∈ handlers) :
    handler.name ≠ ModuleController.serviceName module.module := by
  have hserve := Document.candidates_serve hm
  rw [← ofModule_eq_candidates h] at hserve
  obtain ⟨operation, ho, hs⟩ := exists_of_forall₂ hserve hh
  rw [hs.name]
  exact Naming.handlerName_ne_serviceName (Document.moduleOf?_of_mem_operationsOf ho) operation.2.1

end Handler

/-! ## Routers, controllers and schemas of modules -/

namespace ModuleRouter

variable {module : String} {handlers : List Handler}

/-- The names at the top level of a router. -/
theorem boundNames_ofHandlers : Source.boundNames (ofHandlers module handlers).source =
    ["FastifyPluginAsyncZod"] ++ handlers.map Handler.schemaConst ++ ([controllerName module] ++
      (if handlers.any (·.method.requiresAuth) then ["jwtMiddleware"] else []) ++
      [routerName module]) := by
  rw [boundNames_source]
  unfold ofHandlers Import.localNames
  cases handlers with
  | nil => rfl
  | cons handler handlers =>
    cases (handler :: handlers).any (·.method.requiresAuth) <;>
      simp [pluginImport, authImport, ImportClause.localNames]

/-- The names apart from those of the schemas. -/
def fixedNames (module : String) : List String :=
  ["FastifyPluginAsyncZod", controllerName module, "jwtMiddleware", routerName module]

theorem nodup_fixedNames (module : String) : (fixedNames module).Nodup := by
  have hfixed : ∀ name ∈ ["FastifyPluginAsyncZod", "jwtMiddleware"],
      name ≠ controllerName module ∧ name ≠ routerName module := by
    have hlast : ∀ name ∈ ["FastifyPluginAsyncZod", "jwtMiddleware"],
        name.toList.getLast? ≠ some 'r' := by
      simp
    intro name hname
    exact ⟨(ne_of_getLast? (getLast?_controllerName module) (hlast name hname)).symm,
      (ne_of_getLast? (getLast?_routerName module) (hlast name hname)).symm⟩
  have hboth : controllerName module ≠ routerName module := by
    intro h
    exact absurd ((String.append_right_inj _).mp h) (by decide)
  simp only [List.forall_mem_cons] at hfixed
  simp [fixedNames, hfixed, hboth, Ne.symm hfixed.2.1.1]

theorem getLast?_fixedNames : ∀ name ∈ fixedNames module, name.toList.getLast? ≠ some 'a' := by
  simp [fixedNames, getLast?_controllerName, getLast?_routerName]

theorem boundNames_sublist : (Source.boundNames (ofHandlers module handlers).source).Sublist
    (["FastifyPluginAsyncZod"] ++ handlers.map Handler.schemaConst ++
      [controllerName module, "jwtMiddleware", routerName module]) := by
  have hoptional : (if handlers.any (·.method.requiresAuth) then ["jwtMiddleware"]
      else []).Sublist ["jwtMiddleware"] := by
    split
    · exact List.Sublist.refl _
    · exact List.nil_sublist _
  rw [boundNames_ofHandlers]
  exact ((hoptional.append_left _).append_right _).append_left _

theorem bindsOnce (hc : (handlers.map Handler.schemaConst).Nodup) :
    (ofHandlers module handlers).source.BindsOnce (ofHandlers module handlers).text := by
  have hall : (["FastifyPluginAsyncZod"] ++ handlers.map Handler.schemaConst ++
      [controllerName module, "jwtMiddleware", routerName module]).Nodup := by
    refine nodup_of_marked hc (nodup_fixedNames module) fun a ha b hb => ?_
    obtain ⟨handler, -, rfl⟩ := List.mem_map.mp ha
    exact ne_of_getLast? (Registration.getLast?_schemaConst handler) (getLast?_fixedNames b hb)
  exact ⟨text_eq_source _, hall.sublist boundNames_sublist⟩

end ModuleRouter

namespace ModuleController

variable {module : ModuleRoutes} {handlers : List Handler}

/-- The names at the top level of a controller. -/
theorem boundNames_ofHandlers (name : String) :
    Source.boundNames (ofHandlers name handlers).source =
    ["FastifyRequest"] ++ handlers.map Handler.schemaType ++ ["ApiResponse", serviceName name] ++
      handlers.map Handler.name := by
  rw [boundNames_source]
  unfold ofHandlers Import.localNames
  cases handlers <;> simp [ImportClause.localNames, ControllerFunction.ofHandler]

theorem getLast?_serviceName (name : String) :
    (serviceName name).toList.getLast? = some 'e' :=
  getLast?_append _ (by decide)

theorem nodup_fixedNames (name : String) :
    (["FastifyRequest"] ++ ["ApiResponse", serviceName name]).Nodup := by
  have hrequest : "FastifyRequest" ≠ serviceName name :=
    (ne_of_getLast? (getLast?_serviceName name) (by decide)).symm
  have hresponse : "ApiResponse" ≠ serviceName name := by
    intro h
    have hsuffix : "Service".toList <:+ "ApiResponse".toList := by
      rw [h, serviceName, String.toList_append]
      exact List.suffix_append _ _
    exact absurd hsuffix (by decide)
  simp [hrequest, hresponse]

theorem getLast?_fixedNames (name : String) :
    ∀ fixed ∈ ["FastifyRequest"] ++ ["ApiResponse", serviceName name],
      fixed.toList.getLast? ≠ some 'a' := by
  simp [getLast?_serviceName]

/-- The functions of a controller are the only names in it with a small letter in front, but for the
service. -/
theorem bindsOnce (h : Handler.ofModule module = .ok handlers)
    (hs : ∀ handler ∈ handlers, handler.name ≠ serviceName module.module) :
    (ofHandlers module.module handlers).source.BindsOnce
      (ofHandlers module.module handlers).text := by
  refine ⟨text_eq_source _, ?_⟩
  rw [boundNames_ofHandlers, List.nodup_append]
  refine ⟨?_, Handler.nodup_names h, ?_⟩
  · refine nodup_of_marked (Handler.nodup_schemaTypes h) (nodup_fixedNames _) fun a ha b hb => ?_
    obtain ⟨handler, -, rfl⟩ := List.mem_map.mp ha
    exact ne_of_getLast? (Handler.getLast?_schemaType handler) (getLast?_fixedNames _ b hb)
  · intro a ha b hb
    obtain ⟨handler, hh, rfl⟩ := List.mem_map.mp hb
    have hsmall := (Handler.startsSmall_name h hh).1
    simp only [List.mem_append, List.mem_cons, List.not_mem_nil, or_false, List.mem_map] at ha
    rcases ha with (rfl | ⟨other, ho, rfl⟩) | rfl | rfl
    · exact (ne_of_startsSmall hsmall (by decide)).symm
    · exact (ne_of_startsSmall hsmall (Handler.startsSmall_schemaConst h ho).2).symm
    · exact (ne_of_startsSmall hsmall (by decide)).symm
    · exact (hs handler hh).symm

end ModuleController

namespace ModuleSchemas

variable {module : ModuleRoutes} {handlers : List Handler}

/-- The names at the top level of a file of schemas. -/
theorem boundNames_ofHandlers (handlers : List Handler) :
    Source.boundNames (ofHandlers handlers).source =
    ["z"] ++ handlers.flatMap fun handler => [handler.schemaConst, handler.schemaType] := by
  rw [boundNames_source]
  simp [ofHandlers, imports, Import.localNames, ImportClause.localNames, List.flatMap_map,
    RequestSchema.ofHandler]

theorem bindsOnce (h : Handler.ofModule module = .ok handlers) :
    (ofHandlers handlers).source.BindsOnce (ofHandlers handlers).text := by
  have hperm : (handlers.map Handler.schemaConst ++ handlers.map Handler.schemaType).Perm
      (handlers.flatMap fun handler => [handler.schemaConst, handler.schemaType]) := by
    rw [List.map_eq_flatMap, List.map_eq_flatMap]
    exact List.flatMap_append_perm _ _ _
  have hall : (handlers.map Handler.schemaConst ++ handlers.map Handler.schemaType).Nodup := by
    refine List.nodup_append.mpr ⟨Handler.nodup_schemaConsts h, Handler.nodup_schemaTypes h, ?_⟩
    intro a ha b hb
    obtain ⟨handler, hh, rfl⟩ := List.mem_map.mp ha
    obtain ⟨other, ho, rfl⟩ := List.mem_map.mp hb
    exact ne_of_startsSmall (Handler.startsSmall_schemaConst h hh).1
      (Handler.startsSmall_schemaConst h ho).2
  have hz : ∀ name ∈ handlers.map Handler.schemaConst ++ handlers.map Handler.schemaType,
      "z" ≠ name := by
    intro name hname
    rcases List.mem_append.mp hname with hname | hname
    · obtain ⟨handler, -, rfl⟩ := List.mem_map.mp hname
      exact (ne_of_getLast? (Registration.getLast?_schemaConst handler) (by decide)).symm
    · obtain ⟨handler, -, rfl⟩ := List.mem_map.mp hname
      exact (ne_of_getLast? (Handler.getLast?_schemaType handler) (by decide)).symm
  refine ⟨text_eq_source _, ?_⟩
  rw [boundNames_ofHandlers, List.singleton_append, List.nodup_cons, ← hperm.mem_iff,
    ← hperm.nodup_iff]
  exact ⟨fun hmem => hz "z" hmem rfl, hall⟩

end ModuleSchemas

namespace Document

variable {doc : Document} {bearer : String} {modules : List ModuleRoutes}

/-- Whatever its name and its paths are, what the files of a module with handlers consist of binds
no name twice, and no handler is called like the service or like anything else that its controller
imports. -/
theorem module_files_bind_distinct (h : (doc.extractModules bearer).outcome = .ok modules)
    {module : ModuleRoutes} (hm : module ∈ modules) {handlers : List Handler}
    (hh : Handler.ofModule module = .ok handlers) :
    (ModuleRouter.ofHandlers module.module handlers).source.BindsOnce
        (ModuleRouter.ofHandlers module.module handlers).text ∧
      (ModuleController.ofHandlers module.module handlers).source.BindsOnce
        (ModuleController.ofHandlers module.module handlers).text ∧
      (ModuleSchemas.ofHandlers handlers).source.BindsOnce
        (ModuleSchemas.ofHandlers handlers).text ∧
      ∀ handler ∈ handlers, handler.name ∉
        [ModuleController.serviceName module.module, "ApiResponse", "FastifyRequest"] := by
  have hservice : ∀ handler ∈ handlers,
      handler.name ≠ ModuleController.serviceName module.module :=
    fun handler hmem => Handler.name_ne_serviceName (extractModule_of_mem h hm) hh hmem
  refine ⟨ModuleRouter.bindsOnce (Handler.nodup_schemaConsts hh),
    ModuleController.bindsOnce hh hservice, ModuleSchemas.bindsOnce hh, ?_⟩
  intro handler hmem hfixed
  have hsmall := (Handler.startsSmall_name hh hmem).1
  simp only [List.mem_cons, List.not_mem_nil, or_false] at hfixed
  rcases hfixed with hname | hname | hname
  · exact hservice handler hmem hname
  · exact ne_of_startsSmall hsmall (by decide) hname
  · exact ne_of_startsSmall hsmall (by decide) hname

/-- A module that is called like a verb, with a path that ends like the name of its service. -/
def getService : Document := .ofKeys ["/get/service", "/get"] []

theorem module_files_bind_distinct_getService :
    ∃ modules, (getService.extractModules "bearerAuth").outcome = .ok modules ∧
      ∃ module ∈ modules, ∃ handlers, Handler.ofModule module = .ok handlers ∧
        ModuleController.serviceName module.module = "getService" ∧
        handlers.map Handler.name = ["getGetService", "getGet"] ∧
        (ModuleController.ofHandlers module.module handlers).source.BindsOnce
          (ModuleController.ofHandlers module.module handlers).text := by
  have hvalue : (getService.extractModules "bearerAuth").outcome.map (List.map fun module =>
        (module.module, (Handler.ofModule module).map fun handlers => handlers.map Handler.name))
      = .ok [("get", .ok ["getGetService", "getGet"])] := by
    decide +kernel
  obtain ⟨modules, h, module, hm, hmodule⟩ :=
    exists_mem_of_map_eq_ok hvalue (List.mem_cons_self ..)
  obtain ⟨hname, hnames⟩ := Prod.mk.inj hmodule
  obtain ⟨handlers, hh, hnames⟩ := map_eq_ok_iff.mp hnames
  have hservice : ModuleController.serviceName module.module = "getService" := by
    rw [hname]
    decide +kernel
  refine ⟨modules, h, module, hm, handlers, hh, hservice, hnames, ?_⟩
  exact (module_files_bind_distinct h hm hh).2.1

end Document

/-! ## The main router -/

namespace MainRouter

variable {router : MainRouter} {modules : List String}

theorem routerName_eq_mainRouter_iff {module : String} :
    ModuleRouter.routerName module = "mainRouter" ↔ Naming.moduleIdentifier module = "main" := by
  have hmain : "mainRouter" = "main" ++ "Router" := by decide
  rw [ModuleRouter.routerName, hmain, String.append_left_inj]

/-- A main router is the only one of its name, unless one of its modules is called `main`. -/
theorem Mounts.nodup_iff_no_main (h : router.Mounts modules) :
    (Source.boundNames router.source).Nodup ↔
      ∀ module ∈ modules, Naming.moduleIdentifier module ≠ "main" := by
  have hnames : Import.localNames (Source.imports router.source) =
      modules.map ModuleRouter.routerName ++ ["FastifyPluginAsyncZod"] := by
    rw [h.imports, ← localNames_ofModules]
    rfl
  rw [boundNames_source, ← imports_source, List.nodup_append_comm, List.singleton_append,
    List.nodup_cons, and_iff_left h.names, hnames, List.mem_append, not_or,
    and_iff_left (by decide), List.mem_map]
  simp only [not_exists, not_and, routerName_eq_mainRouter_iff, ne_eq]

end MainRouter

namespace Generation

variable {options : Options} {doc : Document} {output : Output}

/-- The names at the top level of the main router are distinct exactly if no module is mounted whose
identifier is `main`. -/
theorem mainRouter_binds_distinct_iff (hr : (run options doc).outcome = .ok output)
    (hroutes : options.artifacts.routes) (hne : doc.modules ≠ []) : ∃ router : MainRouter,
      ⟨options.fileName mainRouterStem, Source.text router.source, .mainRouter⟩ ∈ output.files ∧
      router.Mounts
        (doc.modules.filter fun name => options.fileName (routerStem name) ∈ output.paths) ∧
      ((Source.boundNames router.source).Nodup ↔
        ∀ name ∈ doc.modules, Naming.moduleIdentifier name = "main" →
          options.fileName (routerStem name) ∉ output.paths) := by
  obtain ⟨modules, entities, mounted, skipped, exported, dropped, hs, h⟩ :=
    exists_settles_of_run hr
  obtain ⟨router, hfile, hmounts⟩ := h.exists_mainRouter hs hroutes hne
  refine ⟨router, router.text_eq_source ▸ hfile, hmounts, ?_⟩
  rw [hmounts.nodup_iff_no_main]
  simp only [List.mem_filter, decide_eq_true_eq]
  constructor
  · intro hall name hn hmain hp
    exact hall name ⟨hn, hp⟩ hmain
  · rintro hall name ⟨hn, hp⟩ hmain
    exact hall name hn hmain hp

theorem mainRouter_binds_distinct_iff_colliding :
    ∃ output, (run routesAndEntities collidingDocument).outcome = .ok output ∧
      routesAndEntities.artifacts.routes ∧ collidingDocument.modules = ["user-list", "userList"] ∧
      ∃ router : MainRouter,
        ⟨"routes.ts", Source.text router.source, .mainRouter⟩ ∈ output.files ∧
        (Source.boundNames router.source).Nodup := by
  have hrun : (run routesAndEntities collidingDocument).outcome.map (fun _ => ()) = .ok () := by
    decide +kernel
  obtain ⟨output, hr, -⟩ := map_eq_ok_iff.mp hrun
  have hmodules : collidingDocument.modules = ["user-list", "userList"] := by decide +kernel
  have hidentifiers : ∀ name ∈ ["user-list", "userList"], Naming.moduleIdentifier name ≠ "main" := by
    decide +kernel
  obtain ⟨router, hfile, -, hiff⟩ := mainRouter_binds_distinct_iff hr rfl (by simp [hmodules])
  refine ⟨output, hr, rfl, hmodules, router, hfile, hiff.mpr fun name hn hmain => ?_⟩
  exact absurd hmain (hidentifiers name (hmodules ▸ hn))

/-- A module that is called like the main router. -/
def mainModule : Document := .ofKeys ["/main"] []

/-- Although all files are emitted, the main router has the name of the router that it mounts. -/
theorem main_module_binds_twice :
    ∃ output, (run routesAndEntities mainModule).outcome = .ok output ∧ output.isComplete ∧
      ∃ router : MainRouter,
        ⟨"routes.ts", Source.text router.source, .mainRouter⟩ ∈ output.files ∧
        router.mounts = [⟨"mainRouter", "/main"⟩] ∧
        Source.boundNames router.source = ["mainRouter", "FastifyPluginAsyncZod", "mainRouter"] ∧
        ¬(Source.boundNames router.source).Nodup := by
  have hrun : (run routesAndEntities mainModule).outcome.map (fun output => (output.isComplete,
        decide (⟨"routes.ts", (MainRouter.ofModules ["main"]).text, .mainRouter⟩ ∈ output.files)))
      = .ok (true, true) := by
    decide +kernel
  obtain ⟨output, hr, hvalue⟩ := map_eq_ok_iff.mp hrun
  obtain ⟨hcomplete, hfile⟩ := Prod.mk.inj hvalue
  have hmounts : (MainRouter.ofModules ["main"]).mounts = [⟨"mainRouter", "/main"⟩] := by
    decide +kernel
  have hbound : Source.boundNames (MainRouter.ofModules ["main"]).source =
      ["mainRouter", "FastifyPluginAsyncZod", "mainRouter"] := by
    decide +kernel
  refine ⟨output, hr, hcomplete, _, MainRouter.text_eq_source _ ▸ of_decide_eq_true hfile, hmounts,
    hbound, ?_⟩
  rw [hbound]
  decide

end Generation

end OpenApiGen
