import OpenApiGen.Proofs.Aggregates
import OpenApiGen.Proofs.GuardedRoutes

/-!
# The four files of a module fit together

Router, controller, service and schemas of a module are each written from its handlers, none of
them from another file. What one of them takes from another one is there nevertheless, under the
same names, in the same order and for the same parts of a request.
-/

namespace OpenApiGen

namespace Import

/-- What is imported from one source, in the order in which it is named. -/
def namesFrom (source : String) (imports : List Import) : List String :=
  localNames (imports.filter (·.source = source))

variable {source : String} {i : Import} {imports : List Import}

@[simp] theorem namesFrom_nil : namesFrom source [] = [] := rfl

theorem namesFrom_cons_of_ne (h : i.source ≠ source) :
    namesFrom source (i :: imports) = namesFrom source imports := by
  simp [namesFrom, h]

theorem namesFrom_append (front back : List Import) :
    namesFrom source (front ++ back) = namesFrom source front ++ namesFrom source back := by
  simp [namesFrom, localNames]

theorem namesFrom_eq_nil (h : ∀ i ∈ imports, i.source ≠ source) : namesFrom source imports = [] := by
  unfold namesFrom
  rw [List.filter_eq_nil_iff.mpr (by simpa using h)]
  rfl

end Import

/-- How files import what lies under a stem. -/
def sourceOf (stem : String) : String := "@" ++ stem ++ ".js"

theorem schemaSource_eq (module : String) :
    schemaSource module = sourceOf (Generation.schemaStem module) := by
  simp [schemaSource, sourceOf, Generation.schemaStem, String.append_assoc]

theorem controllerSource_eq (module : String) :
    controllerSource module = sourceOf (Generation.controllerStem module) := by
  simp [controllerSource, sourceOf, Generation.controllerStem, String.append_assoc]

theorem serviceSource_eq (module : String) :
    serviceSource module = sourceOf (Generation.serviceStem module) := by
  simp [serviceSource, sourceOf, Generation.serviceStem, String.append_assoc]

/-- The end of a source tells what kind of file it is. -/
def sourceEnding (source : String) : List Char := source.toList.reverse.take 5

theorem sourceEnding_append (front : String) {ending : String} (h : 5 ≤ ending.toList.length) :
    sourceEnding (front ++ ending) = sourceEnding ending := by
  unfold sourceEnding
  rw [String.toList_append, List.reverse_append, List.take_append_of_le_length (by simpa using h)]

theorem source_ne_schemaSource {source : String} (module : String)
    (h : sourceEnding source ≠ sourceEnding ".schema.js") : source ≠ schemaSource module := by
  rintro rfl
  exact h (sourceEnding_append _ (by decide))

theorem controllerSource_ne_schemaSource (module : String) :
    controllerSource module ≠ schemaSource module := by
  refine source_ne_schemaSource module ?_
  rw [controllerSource, sourceEnding_append _ (by decide)]
  decide

theorem serviceSource_ne_schemaSource (module : String) :
    serviceSource module ≠ schemaSource module := by
  refine source_ne_schemaSource module ?_
  rw [serviceSource, sourceEnding_append _ (by decide)]
  decide

/-- Where there are no handlers, nothing is imported for them, not even an empty list. -/
theorem Import.namesFrom_block (typeOnly : Bool) (source : String) (handlers : List Handler)
    (nameOf : Handler → String) :
    namesFrom source
        (if handlers.isEmpty then [] else [⟨typeOnly, .block (handlers.map nameOf), source⟩]) =
      handlers.map nameOf := by
  cases handlers with
  | nil => rfl
  | cons handler rest => simp [namesFrom, localNames, ImportClause.localNames]

/-- A router imports the schemas of all its handlers, and nothing else from their file. -/
theorem ModuleRouter.namesFrom_schemaSource (module : String) (handlers : List Handler) :
    Import.namesFrom (schemaSource module) (ofHandlers module handlers).imports =
      handlers.map Handler.schemaConst := by
  have hplugin : pluginImport.source ≠ schemaSource module :=
    source_ne_schemaSource module (by decide)
  have hauth : authImport.source ≠ schemaSource module :=
    source_ne_schemaSource module (by decide)
  have hcontroller := controllerSource_ne_schemaSource module
  have hrest : Import.namesFrom (schemaSource module)
      (if handlers.any (·.method.requiresAuth) then [authImport] else []) = [] := by
    refine Import.namesFrom_eq_nil fun i hi => ?_
    split at hi
    · exact List.mem_singleton.mp hi ▸ hauth
    · cases hi
  simp only [ofHandlers]
  rw [List.cons_append, Import.namesFrom_cons_of_ne hplugin, Import.namesFrom_append,
    Import.namesFrom_block, Import.namesFrom_cons_of_ne hcontroller, hrest, List.append_nil]

/-- So does a controller with the types of the requests. -/
theorem ModuleController.namesFrom_schemaSource (module : String) (handlers : List Handler) :
    Import.namesFrom (schemaSource module) (ofHandlers module handlers).imports =
      handlers.map Handler.schemaType := by
  have hrequest : "fastify" ≠ schemaSource module := source_ne_schemaSource module (by decide)
  have hresponse : "@/shared/api-response.js" ≠ schemaSource module :=
    source_ne_schemaSource module (by decide)
  have hservice := serviceSource_ne_schemaSource module
  simp only [ofHandlers]
  rw [List.cons_append, Import.namesFrom_cons_of_ne hrequest, Import.namesFrom_append,
    Import.namesFrom_block, Import.namesFrom_cons_of_ne hresponse,
    Import.namesFrom_cons_of_ne hservice, Import.namesFrom_nil, List.append_nil]

/-- The key of a part in a request schema, and its name in the type of a request. -/
def RequestPart.schemaNames : RequestPart → String × String
  | .params => ("params", "Params")
  | .body => ("body", "Body")
  | .query => ("querystring", "Querystring")

/-- What a controller calls a function of the service with is what the function asks for. -/
structure ControllerFunction.Feeds (call : ControllerFunction) (function : ServiceFunction) :
    Prop where
  name : call.name = function.name
  arguments : call.parts = function.arguments.map Prod.fst

/-- The parts of a request that are passed on are those that its schema has, none of them twice. -/
structure ControllerFunction.CheckedBy (call : ControllerFunction) (schema : RequestSchema) :
    Prop where
  requestType : call.requestType = schema.type
  parts : (call.parts.map RequestPart.schemaNames).Perm
    (schema.parts.map fun part => (part.key, part.generic))
  distinct : call.parts.Nodup

theorem Method.nodup_parts (method : Method) : method.parts.Nodup := by
  unfold parts
  cases method.hasPathParameters <;> cases method.body.isSome <;>
    cases method.hasQueryParameters <;> decide

namespace ServiceFunction

theorem map_fst_parametersAlias (handler : Handler) (location : Location) (ending : String)
    (part : RequestPart) :
    ((parametersAlias handler location ending).map fun a => (part, a.name)).map Prod.fst =
      if !(handler.method.parametersIn location).isEmpty then [part] else [] := by
  unfold parametersAlias
  cases handler.method.parametersIn location <;> rfl

theorem map_fst_arguments_ofBodyType (handler : Handler) (typeOf : RequestBody → TypeExpr) :
    (ofBodyType handler (handler.method.body.map fun body =>
      bodyNaming handler body (typeOf body))).arguments.map Prod.fst = handler.method.parts := by
  have hbody : ((handler.method.body.map fun body =>
      bodyNaming handler body (typeOf body)).toList.map fun b => (RequestPart.body, b.1)).map Prod.fst =
        if handler.method.body.isSome then [RequestPart.body] else [] := by
    cases handler.method.body <;> rfl
  unfold Method.parts Method.hasPathParameters Method.hasQueryParameters
  rw [← hbody, ← map_fst_parametersAlias handler .path "Params",
    ← map_fst_parametersAlias handler .query "Query", ← List.map_append, ← List.map_append]
  rfl

/-- A function is fed by its controller, whatever types it declares for the arguments. -/
theorem feeds_of_mapM (service : String) {handlers : List Handler}
    {declarations after : List Declaration} {functions : List ServiceFunction}
    (h : (handlers.mapM ofHandler).run declarations = .ok (functions, after)) :
    List.Forall₂ ControllerFunction.Feeds (handlers.map (ControllerFunction.ofHandler service))
      functions := by
  rw [List.forall₂_map_left_iff]
  refine (forall₂_of_mapM h).imp fun handler function hf => ?_
  obtain ⟨typeOf, rfl⟩ := hf
  exact ⟨rfl, (map_fst_arguments_ofBodyType handler typeOf).symm⟩

end ServiceFunction

theorem ModuleService.feeds_of_ofHandlers (service : String) {handlers : List Handler}
    {file : ModuleService} (h : ofHandlers handlers = .ok file) :
    List.Forall₂ ControllerFunction.Feeds (handlers.map (ControllerFunction.ofHandler service))
      file.functions ∧ file.exports = handlers.map Handler.name := by
  obtain ⟨⟨functions, declarations⟩, hr, hs⟩ := bind_eq_ok_iff.mp h
  dsimp only at hs
  split at hs
  · cases hs
  · cases hs
    exact ⟨ServiceFunction.feeds_of_mapM service hr, rfl⟩

namespace RequestSchema

theorem map_names_parametersPart (handler : Handler) (location : Location) (key generic : String) :
    ((parametersPart handler location key generic).map fun part => (part.key, part.generic)) =
      if !(handler.method.parametersIn location).isEmpty then [(key, generic)] else [] := by
  unfold parametersPart
  cases handler.method.parametersIn location <;> rfl

/-- A schema has the body behind the query, a call has it in front of it. -/
theorem checkedBy_ofHandler (service : String) (handler : Handler) :
    (ControllerFunction.ofHandler service handler).CheckedBy (ofHandler handler) where
  requestType := rfl
  parts := by
    have hbody : (handler.method.body.toList.map fun body =>
        SchemaPart.mk "body" "Body" (.ofBody body)).map (fun part => (part.key, part.generic)) =
          if handler.method.body.isSome then [("body", "Body")] else [] := by
      cases handler.method.body <;> rfl
    have hcall : (ControllerFunction.ofHandler service handler).parts.map RequestPart.schemaNames =
        (if handler.method.hasPathParameters then [("params", "Params")] else []) ++
          ((if handler.method.body.isSome then [("body", "Body")] else []) ++
            if handler.method.hasQueryParameters then [("querystring", "Querystring")] else []) := by
      unfold ControllerFunction.ofHandler Method.parts
      cases handler.method.hasPathParameters <;> cases handler.method.body.isSome <;>
        cases handler.method.hasQueryParameters <;> rfl
    unfold ofHandler
    rw [hcall, List.map_append, List.map_append, hbody, map_names_parametersPart,
      map_names_parametersPart, List.append_assoc]
    exact .append_left _ List.perm_append_comm
  distinct := handler.method.nodup_parts

end RequestSchema

/-- The files of one module. -/
structure ModuleFiles where
  router : ModuleRouter
  controller : ModuleController
  service : ModuleService
  schemas : ModuleSchemas

namespace ModuleFiles

def ofModule (module : ModuleRoutes) : Except Failure ModuleFiles := do
  let handlers ← Handler.ofModule module
  let service ← ModuleService.ofHandlers handlers
  return ⟨.ofHandlers module.module handlers, .ofHandlers module.module handlers, service,
    .ofHandlers handlers⟩

/-- The paths and the statements under which the files of a module are emitted. -/
def sources (files : ModuleFiles) (options : Options) (name : String) : List (String × Source) :=
  [(options.fileName (Generation.routerStem name), files.router.source),
    (options.fileName (Generation.controllerStem name), files.controller.source),
    (options.fileName (Generation.serviceStem name), files.service.source),
    (options.fileName (Generation.schemaStem name), files.schemas.source)]

/-- What the files of a module take from each other is there: `doc` has an operation for each of
the functions. -/
structure Agree (files : ModuleFiles) (doc : Document) (name : String) : Prop where
  routerImports : Source.imports files.router.source = files.router.imports
  routerCalls : Source.calls files.router.source = files.router.registrations.map .register
  controllerImports : Source.imports files.controller.source = files.controller.imports
  controllerExports : Source.exports files.controller.source =
    files.controller.exports.map fun name => (.default, name)
  serviceExports : Source.exports files.service.source =
    files.service.exports.map fun name => (.default, name)
  schemaExports : Source.exports files.schemas.source =
    files.schemas.schemas.flatMap fun s => [(.named, s.constant), (.named, s.type)]
  operations : files.service.exports = (doc.operationsOf name).map Document.handlerNameOf
  exports : files.controller.exports = files.service.exports
  distinct : files.service.exports.Nodup
  controllerFunctions :
    files.controller.functions.map ControllerFunction.name = files.controller.exports
  serviceFunctions : files.service.functions.map ServiceFunction.name = files.service.exports
  constants : Import.namesFrom (sourceOf (Generation.schemaStem name)) files.router.imports =
    files.schemas.schemas.map RequestSchema.constant
  types : Import.namesFrom (sourceOf (Generation.schemaStem name)) files.controller.imports =
    files.schemas.schemas.map RequestSchema.type
  controllerImport : ⟨false, .default (ModuleRouter.controllerName name),
    sourceOf (Generation.controllerStem name)⟩ ∈ files.router.imports
  serviceImport : ⟨false, .default (ModuleController.serviceName name),
    sourceOf (Generation.serviceStem name)⟩ ∈ files.controller.imports
  checks : files.router.registrations.map Registration.schema =
    files.schemas.schemas.map RequestSchema.constant
  members : files.router.registrations.map Registration.handler =
    files.controller.exports.map (ModuleRouter.controllerName name ++ "." ++ ·)
  calls : ∀ call ∈ files.controller.functions,
    call.service = ModuleController.serviceName name ∧ call.name ∈ files.service.exports
  arguments : List.Forall₂ ControllerFunction.Feeds files.controller.functions
    files.service.functions
  parts : List.Forall₂ ControllerFunction.CheckedBy files.controller.functions
    files.schemas.schemas

variable {doc : Document} {bearer name : String} {module : ModuleRoutes} {files : ModuleFiles}

theorem agree_of_ofModule (hmodule : (doc.extractModule bearer name).outcome = .ok module)
    (h : ofModule module = .ok files) : files.Agree doc name := by
  obtain ⟨handlers, hh, h⟩ := bind_eq_ok_iff.mp h
  obtain ⟨service, hs, h⟩ := bind_eq_ok_iff.mp h
  obtain rfl := Document.module_of_extractModule hmodule
  cases h
  obtain ⟨hfeeds, hexports⟩ :=
    ModuleService.feeds_of_ofHandlers (ModuleController.serviceName module.module) hs
  have hserve := Document.candidates_serve hmodule
  rw [← Handler.ofModule_eq_candidates hh] at hserve
  have hnames : (ModuleController.ofHandlers module.module handlers).functions.map
      ControllerFunction.name = handlers.map Handler.name := by
    rw [ModuleController.ofHandlers, List.map_map]
    rfl
  have hfunctions : service.functions.map ServiceFunction.name = handlers.map Handler.name := by
    rw [← hnames]
    exact (map_eq_map_of_forall₂ (hfeeds.imp fun _ _ hf => hf.name)).symm
  exact {
    routerImports := ModuleRouter.imports_source _
    routerCalls := ModuleRouter.calls_source _
    controllerImports := ModuleController.imports_source _
    controllerExports := ModuleController.exports_source _
    serviceExports := ModuleService.exports_source _
    schemaExports := ModuleSchemas.exports_source _
    operations := by
      rw [hexports]
      exact (map_eq_map_of_forall₂ (hserve.imp fun _ _ hs => hs.name.symm)).symm
    exports := hexports.symm
    distinct := hexports ▸ Handler.nodup_names hh
    controllerFunctions := hnames
    serviceFunctions := hfunctions.trans hexports.symm
    constants := by
      rw [← schemaSource_eq, ModuleRouter.namesFrom_schemaSource, ModuleSchemas.ofHandlers,
        List.map_map]
      rfl
    types := by
      rw [← schemaSource_eq, ModuleController.namesFrom_schemaSource, ModuleSchemas.ofHandlers,
        List.map_map]
      rfl
    controllerImport := by
      rw [← controllerSource_eq]
      exact ModuleRouter.mem_imports_iff.mpr (.inr (.inr (.inl rfl)))
    serviceImport := by
      rw [← serviceSource_eq]
      simp [ModuleController.ofHandlers]
    checks := by
      rw [ModuleRouter.ofHandlers, ModuleSchemas.ofHandlers, List.map_map, List.map_map]
      rfl
    members := by
      rw [ModuleRouter.ofHandlers, ModuleController.ofHandlers, List.map_map, List.map_map]
      rfl
    calls := by
      intro call hc
      obtain ⟨handler, hhandler, rfl⟩ := List.mem_map.mp hc
      exact ⟨rfl, hexports ▸ List.mem_map_of_mem hhandler⟩
    arguments := hfeeds
    parts := by
      rw [ModuleController.ofHandlers, ModuleSchemas.ofHandlers, List.forall₂_map_left_iff,
        List.forall₂_map_right_iff, List.forall₂_same]
      exact fun handler _ => RequestSchema.checkedBy_ofHandler _ handler }

end ModuleFiles

/-- All four families of files of modules are emitted. -/
structure Artifacts.HasAllModuleFiles (artifacts : Artifacts) : Prop where
  routes : artifacts.routes
  controllers : artifacts.controllers
  services : artifacts.services
  schemas : artifacts.schemas

namespace Generation

variable {options : Options} {doc : Document} {output : Output}

theorem moduleFiles_eq (ha : options.artifacts.HasAllModuleFiles) (module : ModuleRoutes) :
    moduleFiles options module =
      (ModuleFiles.ofModule module).map fun files =>
        (files.sources options module.module).map fun entry => (entry.1, Source.text entry.2) := by
  obtain ⟨hroutes, hcontrollers, hservices, hschemas⟩ := ha
  simp only [moduleFiles, ModuleFiles.ofModule, hroutes, hcontrollers, hservices, hschemas,
    ModuleRouter.text_eq_source, ModuleController.text_eq_source, ModuleService.text_eq_source,
    ModuleSchemas.text_eq_source]
  cases Handler.ofModule module with
  | error failure => rfl
  | ok handlers =>
    simp only [ok_bind, if_true]
    cases ModuleService.ofHandlers handlers <;> rfl

theorem emitted_ofModule (ha : options.artifacts.HasAllModuleFiles) {module : ModuleRoutes}
    {files : ModuleFiles} (h : ModuleFiles.ofModule module = .ok files) :
    (Offer.ofModule options module).emitted = (files.sources options module.module).map
      fun entry => ⟨entry.1, Source.text entry.2, .module module.module⟩ := by
  have hfiles : (Offer.ofModule options module).files = .ok
      ((files.sources options module.module).map fun entry => (entry.1, Source.text entry.2)) := by
    rw [Offer.ofModule, moduleFiles_eq ha, h]
    rfl
  unfold Offer.emitted
  rw [hfiles]
  rfl

/-- Where all four families are emitted, a module of which there is any file has four, and what they
consist of agrees with each other. -/
theorem module_files_agree (ha : options.artifacts.HasAllModuleFiles)
    (hr : (run options doc).outcome = .ok output) {file : EmittedFile} (hf : file ∈ output.files)
    {name : String} (ho : file.owner = .module name) :
    ∃ module files, (doc.extractModule options.bearerScheme name).outcome = .ok module ∧
      ModuleFiles.ofModule module = .ok files ∧
      (∀ other, other ∈ output.files ∧ other.owner = .module name ↔
        ∃ entry ∈ files.sources options name,
          other = ⟨entry.1, Source.text entry.2, .module name⟩) ∧
      files.Agree doc name := by
  obtain ⟨modules, entities, mounted, skipped, exported, dropped, hs, h⟩ :=
    exists_settles_of_run hr
  obtain ⟨module, hm, rfl, -⟩ := h.mem_files_of_module.mp ⟨hf, ho⟩
  have hextract : ∀ module ∈ mounted,
      (doc.extractModule options.bearerScheme module.module).outcome = .ok module :=
    fun module hm => hs.extractModule (h.moduleOrder.subset hm)
  obtain ⟨batch, hbatch⟩ := h.written module hm
  rw [moduleFiles_eq ha] at hbatch
  obtain ⟨files, hfiles, rfl⟩ := map_eq_ok_iff.mp hbatch
  refine ⟨module, files, hextract module hm, hfiles, fun other => ?_,
    ModuleFiles.agree_of_ofModule (hextract module hm) hfiles⟩
  rw [h.mem_files_of_module]
  constructor
  · rintro ⟨module', hm', hname, hother⟩
    -- what is extracted for a name depends on the name alone
    have hsame : module' = module :=
      Except.ok.inj ((hextract module' hm').symm.trans (hname ▸ hextract module hm))
    rw [hsame, emitted_ofModule ha hfiles] at hother
    obtain ⟨entry, he, rfl⟩ := List.mem_map.mp hother
    exact ⟨entry, he, rfl⟩
  · rintro ⟨entry, he, rfl⟩
    refine ⟨module, hm, rfl, ?_⟩
    rw [emitted_ofModule ha hfiles]
    exact List.mem_map_of_mem he

def parameterOf (location : Location) (name : String) : Referable ParameterEntry :=
  .inline ⟨name, location, none, none, none⟩

/-- A user is replaced with parameters in all locations and a body, and read with none. -/
def replacedUser : Document where
  openapi := "3.0.0"
  info := ⟨"Users", "1", none⟩
  paths := [("/users/\x7bid\x7d", [
    (.put, ⟨none, none, some [parameterOf .query "force", parameterOf .header "trace",
      parameterOf .path "id", parameterOf .cookie "session"],
      some (.inline ⟨none, [("application/json", ⟨some { type := some (.single "string") }⟩)], none⟩),
      none⟩),
    (.get, ⟨none, none, none, none, none⟩)])]
  components := {}

theorem module_files_agree_replacedUser : ({} : Options).artifacts.HasAllModuleFiles ∧
    ∃ output, (run {} replacedUser).outcome = .ok output ∧
      ∃ file ∈ output.files, file.owner = .module "users" ∧
        ∃ module files, (replacedUser.extractModule "bearerAuth" "users").outcome = .ok module ∧
          ModuleFiles.ofModule module = .ok files ∧ files.Agree replacedUser "users" ∧
          files.controller.functions.map (fun call => (call.name, call.parts)) =
            [("putUsersId", [.params, .body, .query]), ("getUsersId", [])] := by
  have ha : ({} : Options).artifacts.HasAllModuleFiles := ⟨rfl, rfl, rfl, rfl⟩
  have hrun : (run {} replacedUser).outcome.map
      (fun output => output.files.map EmittedFile.owner) =
        .ok (List.replicate 4 (.module "users") ++ [.mainRouter]) := by
    decide +kernel
  have hcalls : ((replacedUser.extractModule "bearerAuth" "users").outcome.bind
      ModuleFiles.ofModule).map (fun files =>
        files.controller.functions.map fun call => (call.name, call.parts)) =
          .ok [("putUsersId", [.params, .body, .query]), ("getUsersId", [])] := by
    decide +kernel
  obtain ⟨output, hr, howners⟩ := map_eq_ok_iff.mp hrun
  have howner : Item.module "users" ∈ output.files.map EmittedFile.owner := by
    rw [howners]
    decide
  obtain ⟨file, hf, ho⟩ := List.mem_map.mp howner
  obtain ⟨module, files, hmodule, hfiles, -, hagree⟩ := module_files_agree ha hr hf ho
  refine ⟨ha, output, hr, file, hf, ho, module, files, hmodule, hfiles, hagree, ?_⟩
  have hbearer : ({} : Options).bearerScheme = "bearerAuth" := rfl
  rw [hbearer] at hmodule
  rw [hmodule] at hcalls
  simpa [Except.bind, hfiles, Except.map] using hcalls

end Generation
end OpenApiGen
