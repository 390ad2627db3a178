import OpenApiGen.Proofs.Aggregates
import OpenApiGen.Proofs.NameLetters
import OpenApiGen.Proofs.RegisteredUrls

/-!
# Which routes are guarded

The operations that ask for a bearer token are exactly those whose registration runs the hook that
checks it, in both forms that a registration has.
-/

namespace OpenApiGen

/-- The text is a word of small letters, any of which may stand as a capital. -/
def Spells (word text : List Char) : Prop :=
  List.Forall₂ (fun small c => c = small ∨ c = small.toUpper) word text

theorem map_toLower_eq_iff {word text : List Char}
    (h : ∀ small ∈ word, 97 ≤ small.toNat ∧ small.toNat ≤ 122) :
    text.map Char.toLower = word ↔ Spells word text := by
  unfold Spells
  induction word generalizing text with
  | nil => simp
  | cons small word ih =>
    cases text with
    | nil => simp
    | cons c text =>
      rw [List.map_cons, List.cons.injEq, List.forall₂_cons,
        toLower_eq_iff (h small (List.mem_cons_self ..)),
        ih fun other ho => h other (List.mem_cons_of_mem _ ho)]

/-- A scheme that takes bearer tokens over HTTP. -/
structure SecurityScheme.IsHttpBearer (scheme : SecurityScheme) : Prop where
  type : Spells "http".toList scheme.type.toList
  scheme : ∃ name, scheme.scheme = some name ∧ Spells "bearer".toList name.toList

theorem SecurityScheme.isBearer_iff (scheme : SecurityScheme) :
    scheme.isBearer ↔ scheme.IsHttpBearer := by
  have htype : lowerAscii scheme.type = "http".toList ↔ Spells "http".toList scheme.type.toList :=
    map_toLower_eq_iff (by simp)
  have hname : ∀ name, lowerAscii name = "bearer".toList ↔ Spells "bearer".toList name.toList :=
    fun name => map_toLower_eq_iff (by simp)
  unfold isBearer
  rw [Bool.and_eq_true, beq_iff_eq, htype, Option.any_eq_true]
  simp only [beq_iff_eq, hname]
  exact ⟨fun ⟨ht, hs⟩ => ⟨ht, hs⟩, fun hs => ⟨hs.type, hs.scheme⟩⟩

namespace Document

variable {doc : Document} {bearer : String}

/-- The name stands for bearer tokens: of a declared scheme, or the configured one where no scheme is
declared at all. -/
def BearerName (doc : Document) (bearer name : String) : Prop :=
  (doc.components.securitySchemes = [] ∧ name = bearer) ∨
    ∃ scheme, KeyedList.find? name doc.components.securitySchemes = some scheme ∧
      scheme.IsHttpBearer

/-- One of the requirements of an operation has a key that stands for bearer tokens. -/
def DemandsBearer (doc : Document) (bearer : String) (operation : Operation) : Prop :=
  ∃ requirements, operation.security = some requirements ∧ ∃ requirement ∈ requirements,
    ∃ name ∈ KeyedList.keys requirement, doc.BearerName bearer name

theorem namesBearer_iff (name : String) :
    doc.namesBearer bearer name ↔ doc.BearerName bearer name := by
  unfold namesBearer BearerName
  cases hschemes : doc.components.securitySchemes with
  | nil => simp [KeyedList.find?]
  | cons entry rest =>
    have hnone : (entry :: rest).isEmpty = false := rfl
    simp [hnone, Option.any_eq_true, SecurityScheme.isBearer_iff]

theorem requiresBearer_iff (operation : Operation) :
    doc.requiresBearer bearer operation ↔ doc.DemandsBearer bearer operation := by
  unfold requiresBearer DemandsBearer
  simp only [Option.any_eq_true, List.any_eq_true, namesBearer_iff]

end Document

namespace Registration

/-- The line of a registration in the plugin of its router. -/
def line (r : Registration) : String := (PluginCall.register r).line

/-- A line up to the schema. -/
def opening (r : Registration) : String :=
  match r.verb with
  | .trace => "  app.route(\x7b method: \"TRACE\", url: \"" ++ r.url ++ "\", ..."
  | verb =>
    "  app." ++ verb.name ++ "(\"" ++ r.url ++ "\", " ++ if r.guarded then "\x7b ..." else ""

/-- The end of the options of a registration that runs the hook. -/
def hook : Verb → String
  | .trace => ", onRequest: [jwtMiddleware]"
  | _ => ", onRequest: [jwtMiddleware] \x7d"

/-- A line from its handler on. -/
def closing (r : Registration) : String :=
  match r.verb with
  | .trace => ", handler: " ++ r.handler ++ " \x7d);"
  | _ => ", " ++ r.handler ++ ");"

/-- The hook stands in the line, right in front of the handler. -/
def CarriesHook (r : Registration) : Prop :=
  ∃ front, r.line = front ++ hook r.verb ++ r.closing

theorem line_eq (r : Registration) :
    r.line = r.opening ++ r.schema ++ (if r.guarded then hook r.verb else "") ++ r.closing := by
  obtain ⟨verb, url, schema, guarded, handler⟩ := r
  rw [← String.toList_inj]
  unfold line PluginCall.line opening hook closing
  cases guarded <;> cases verb <;> simp

/-- A registration carries the hook exactly if it is marked so, whatever its URL is. -/
theorem carriesHook_iff {r : Registration} (hs : r.schema.toList.getLast? = some 'a') :
    r.CarriesHook ↔ r.guarded := by
  have hline := r.line_eq
  constructor
  · rintro ⟨front, hfront⟩
    by_contra hg
    rw [if_neg hg, hfront, String.append_empty] at hline
    have hchars := congrArg String.toList hline
    simp only [String.toList_append, List.append_cancel_right_eq] at hchars
    -- a hook ends in a bracket, the name of a schema in a letter
    have hne : r.schema.toList ≠ [] := by
      intro he
      rw [he] at hs
      cases hs
    have hschema := (List.getLast?_append_of_ne_nil r.opening.toList hne).trans hs
    have hhook : (front.toList ++ (hook r.verb).toList).getLast? ≠ some 'a' := by
      rw [List.getLast?_append_of_ne_nil]
      · cases r.verb <;> decide
      · cases r.verb <;> decide
    exact hhook (hchars ▸ hschema)
  · intro hg
    rw [if_pos hg] at hline
    exact ⟨r.opening ++ r.schema, hline⟩

theorem getLast?_schemaConst (handler : Handler) :
    handler.schemaConst.toList.getLast? = some 'a' :=
  getLast?_append handler.name (by decide)

theorem carriesHook_ofHandler (controller : String) (handler : Handler) :
    (ofHandler controller handler).CarriesHook ↔ handler.method.requiresAuth :=
  carriesHook_iff (getLast?_schemaConst handler)

end Registration

namespace ModuleRouter

variable {module : String} {handlers : List Handler}

theorem mem_imports_iff {i : Import} : i ∈ (ofHandlers module handlers).imports ↔
    i = pluginImport ∨
    (handlers ≠ [] ∧
      i = ⟨false, .block (handlers.map Handler.schemaConst), schemaSource module⟩) ∨
    i = ⟨false, .default (controllerName module), controllerSource module⟩ ∨
    ((∃ handler ∈ handlers, handler.method.requiresAuth) ∧ i = authImport) := by
  have hauth : i ∈ (if handlers.any (·.method.requiresAuth) then [authImport] else []) ↔
      (∃ handler ∈ handlers, handler.method.requiresAuth) ∧ i = authImport := by
    rw [← List.any_eq_true]
    split <;> simp [*]
  unfold ofHandlers
  simp only [List.cons_append, List.mem_cons, List.mem_append, hauth]
  cases handlers <;> simp

theorem getLast?_controllerName (module : String) :
    (controllerName module).toList.getLast? = some 'r' :=
  getLast?_append _ (by decide)

/-- Nothing else that a router imports has the name of the middleware. -/
theorem eq_authImport {i : Import} (hi : i ∈ (ofHandlers module handlers).imports)
    (hname : "jwtMiddleware" ∈ i.clause.localNames) : i = authImport := by
  have hlast : "jwtMiddleware".toList.getLast? = some 'e' := rfl
  rcases mem_imports_iff.mp hi with rfl | ⟨-, rfl⟩ | rfl | ⟨-, rfl⟩
  · exact absurd hname (by decide)
  · obtain ⟨handler, -, hconst⟩ := List.mem_map.mp hname
    have hletter := Registration.getLast?_schemaConst handler
    rw [hconst, hlast] at hletter
    cases hletter
  · have hletter := getLast?_controllerName module
    rw [← List.mem_singleton.mp hname, hlast] at hletter
    cases hletter
  · rfl

theorem jwtMiddleware_mem_localNames_iff :
    "jwtMiddleware" ∈ Import.localNames (ofHandlers module handlers).imports ↔
      ∃ handler ∈ handlers, handler.method.requiresAuth := by
  have hself : authImport ∈ (ofHandlers module handlers).imports ↔
      ∃ handler ∈ handlers, handler.method.requiresAuth := by
    rw [mem_imports_iff]
    simp [authImport, pluginImport]
  rw [← hself, Import.localNames, List.mem_flatMap]
  constructor
  · rintro ⟨i, hi, hname⟩
    exact eq_authImport hi hname ▸ hi
  · intro hi
    exact ⟨authImport, hi, List.mem_singleton.mpr rfl⟩

end ModuleRouter

namespace Generation

variable {options : Options} {doc : Document} {modules : List ModuleRoutes}
  {entities : List Entity} {output : Output}

theorem Selects.extractModule (h : Selects options doc modules entities) {module : ModuleRoutes}
    (hm : module ∈ modules) :
    (doc.extractModule options.bearerScheme module.module).outcome = .ok module := by
  have hmodules := h.modules
  split at hmodules
  · exact Document.extractModule_of_mem hmodules hm
  · rw [hmodules] at hm
    cases hm

theorem FamilyFile.eq_router {name content : String} {handlers : List Handler}
    (h : FamilyFile options name handlers (options.fileName (routerStem name)) content) :
    content = Source.text (ModuleRouter.ofHandlers name handlers).source := by
  have hstems := nodup_moduleStems name
  simp only [moduleStems, List.nodup_cons, List.mem_cons, List.not_mem_nil, or_false, not_or]
    at hstems
  obtain ⟨⟨hcontroller, hservice, hschema⟩, -⟩ := hstems
  generalize hpath : options.fileName (routerStem name) = path at h
  cases h with
  | router => rfl
  | controller => exact absurd (Options.fileName_inj.mp hpath) hcontroller
  | service => exact absurd (Options.fileName_inj.mp hpath) hservice
  | schemas => exact absurd (Options.fileName_inj.mp hpath) hschema

/-- A router that is emitted is that of the handlers of its module. -/
theorem exists_handlers_of_router (hr : (run options doc).outcome = .ok output)
    {file : EmittedFile} (hf : file ∈ output.files) {name : String}
    (ho : file.owner = .module name) (hp : file.path = options.fileName (routerStem name)) :
    ∃ module handlers, (doc.extractModule options.bearerScheme name).outcome = .ok module ∧
      Handler.ofModule module = .ok handlers ∧
      file.content = Source.text (ModuleRouter.ofHandlers name handlers).source := by
  obtain ⟨modules, entities, mounted, skipped, exported, dropped, hs, h⟩ :=
    exists_settles_of_run hr
  obtain ⟨module, hm, rfl, -⟩ := h.mem_files_of_module.mp ⟨hf, ho⟩
  obtain ⟨handlers, hh, -, hfiles⟩ := h.exists_familyFiles hs hm
  obtain ⟨path, content, owner⟩ := file
  cases ho
  cases hp
  exact ⟨module, handlers, hs.extractModule (h.moduleOrder.subset hm), hh,
    ((hfiles _ _).mp hf).eq_router⟩

/-- In every router of a module that is emitted, the line of an operation carries the hook exactly
if the operation asks for a bearer token, and the hook is imported exactly if some line carries
it. -/
theorem registrations_guarded_iff (hr : (run options doc).outcome = .ok output)
    {file : EmittedFile} (hf : file ∈ output.files) {name : String}
    (ho : file.owner = .module name) (hp : file.path = options.fileName (routerStem name)) :
    ∃ module handlers, (doc.extractModule options.bearerScheme name).outcome = .ok module ∧
      Handler.ofModule module = .ok handlers ∧
      ∃ router, router = ModuleRouter.ofHandlers name handlers ∧
        file.content = Source.text router.source ∧
        Source.imports router.source = router.imports ∧
        Source.calls router.source = router.registrations.map .register ∧
        List.Forall₂ (fun operation registration =>
            (registration.verb, registration.url) = Document.registrationOf name operation ∧
            (registration.CarriesHook ↔ doc.DemandsBearer options.bearerScheme operation.2.2))
          (doc.operationsOf name) router.registrations ∧
        ("jwtMiddleware" ∈ Import.localNames router.imports ↔
          ∃ registration ∈ router.registrations, registration.CarriesHook) ∧
        ∀ i ∈ router.imports, "jwtMiddleware" ∈ i.clause.localNames → i = authImport := by
  obtain ⟨module, handlers, hmodule, hh, hcontent⟩ := exists_handlers_of_router hr hf ho hp
  obtain rfl := Document.module_of_extractModule hmodule
  have hserve := Document.candidates_serve hmodule
  rw [← Handler.ofModule_eq_candidates hh] at hserve
  refine ⟨module, handlers, hmodule, hh, _, rfl, hcontent, ModuleRouter.imports_source _,
    ModuleRouter.calls_source _, ?_, ?_, ?_⟩
  · rw [ModuleRouter.ofHandlers, List.forall₂_map_right_iff]
    refine hserve.imp fun operation handler hs => ⟨hs.registered, ?_⟩
    rw [Registration.carriesHook_ofHandler, hs.describes.method.requiresAuth,
      Document.requiresBearer_iff]
  · rw [ModuleRouter.jwtMiddleware_mem_localNames_iff]
    simp [ModuleRouter.ofHandlers, Registration.carriesHook_ofHandler]
  · exact fun i hi hname => ModuleRouter.eq_authImport hi hname

def demanding (security : List (List (String × List String))) : Operation :=
  ⟨none, none, none, none, some security⟩

/-- Jobs are read by all, but put and traced with a token. -/
def guardedJobs : Document where
  openapi := "3.0.0"
  info := ⟨"Jobs", "1", none⟩
  paths := [("/jobs", [(.get, demanding [[]]), (.put, demanding [[("key", [])], [("jwt", [])]]),
    (.trace, demanding [[("key", []), ("jwt", ["read"])]])])]
  components := { securitySchemes :=
    [("key", ⟨"apiKey", none, none⟩), ("jwt", ⟨"HTTP", some "Bearer", none⟩)] }

def routesOnly : Options :=
  { artifacts := { controllers := false, services := false, schemas := false, entities := false } }

theorem registrations_guarded_iff_jobs :
    ∃ output, (run routesOnly guardedJobs).outcome = .ok output ∧
      ∃ file ∈ output.files, file.owner = .module "jobs" ∧
        file.path = routesOnly.fileName (routerStem "jobs") ∧
        ∃ router : ModuleRouter, file.content = Source.text router.source ∧
          router.registrations.map Registration.guarded = [false, true, true] ∧
          List.Forall₂ (fun operation registration =>
              (registration.verb, registration.url) = Document.registrationOf "jobs" operation ∧
              (registration.CarriesHook ↔ guardedJobs.DemandsBearer "bearerAuth" operation.2.2))
            (guardedJobs.operationsOf "jobs") router.registrations ∧
          ("jwtMiddleware" ∈ Import.localNames router.imports ↔
            ∃ registration ∈ router.registrations, registration.CarriesHook) := by
  have hrun : (run routesOnly guardedJobs).outcome.map
      (fun output => output.files.map fun file => (file.owner, file.path)) =
        .ok [(.module "jobs", "jobs/index.routes.ts"), (.mainRouter, "routes.ts")] := by
    decide +kernel
  have hguarded : (guardedJobs.extractModule "bearerAuth" "jobs").outcome.map (fun module =>
      (Handler.ofModule module).map fun handlers =>
        handlers.map (·.method.requiresAuth)) = .ok (.ok [false, true, true]) := by
    decide +kernel
  obtain ⟨output, hr, hfiles⟩ := map_eq_ok_iff.mp hrun
  obtain ⟨file, hf, hfile⟩ : ∃ file ∈ output.files,
      (file.owner, file.path) = (.module "jobs", "jobs/index.routes.ts") := by
    rw [← List.mem_map, hfiles]
    exact List.mem_cons_self ..
  obtain ⟨ho, hpath⟩ := Prod.mk.inj hfile
  have hp : file.path = routesOnly.fileName (routerStem "jobs") := hpath.trans (by decide)
  obtain ⟨module, handlers, hmodule, hh, router, rfl, hcontent, -, -, hlines, himport, -⟩ :=
    registrations_guarded_iff hr hf ho hp
  refine ⟨output, hr, file, hf, ho, hp, _, hcontent, ?_, hlines, himport⟩
  obtain ⟨module', hmodule', hguarded⟩ := map_eq_ok_iff.mp hguarded
  obtain rfl := Except.ok.inj (hmodule.symm.trans hmodule')
  obtain ⟨handlers', hh', hguarded⟩ := map_eq_ok_iff.mp hguarded
  obtain rfl := Except.ok.inj (hh.symm.trans hh')
  rw [ModuleRouter.ofHandlers, List.map_map]
  exact hguarded

end Generation
end OpenApiGen
