import OpenApiGen.EntityFile
import OpenApiGen.ModuleController
import OpenApiGen.ModuleRouter
import OpenApiGen.ModuleService
import OpenApiGen.RequestSchema

/-! # Generation: all files of a document, and the items that failed -/

namespace OpenApiGen

/-- What files are emitted for. -/
inductive Item
  | module (name : String)
  | mainRouter
  | entity (schemaName : String)
  | entityIndex
deriving DecidableEq, Repr

def Item.text : Item → String
  | .module name => "module " ++ name
  | .mainRouter => "main router"
  | .entity schemaName => "entity " ++ schemaName
  | .entityIndex => "entity index"

structure EmittedFile where
  path : String
  content : String
  owner : Item
deriving DecidableEq, Repr

structure ItemFailure where
  item : Item
  failure : Failure
deriving DecidableEq, Repr

/-- Files in the order in which they were emitted, each with the item it belongs to. -/
structure Output where
  files : List EmittedFile := []
  failures : List ItemFailure := []
deriving DecidableEq, Repr

/-- Identifiers with the items that took them. -/
abbrev TakenNames := List (String × Item)

namespace Output

def isComplete (output : Output) : Bool := output.failures.isEmpty

def file? (output : Output) (path : String) : Option EmittedFile :=
  output.files.find? (·.path == path)

def addFailure (output : Output) (item : Item) (failure : Failure) : Traced Output := do
  Traced.report (.itemSkipped item.text failure)
  return { output with failures := output.failures ++ [⟨item, failure⟩] }

/-- The first path of a batch that repeats an earlier one or is taken, and who holds it. `earlier`
are the paths of the batch that were passed. -/
def conflict? (output : Output) (item : Item) (earlier : List String) :
    List (String × String) → Option Failure
  | [] => none
  | (path, _) :: rest =>
    if earlier.contains path then some (.namingCollision path item.text item.text)
    else match output.file? path with
      | some file => some (.namingCollision path file.owner.text item.text)
      | none => conflict? output item (path :: earlier) rest

def emit (output : Output) (item : Item) (batch : List (String × String)) : Traced Output :=
  ⟨{ output with files := output.files ++ batch.map fun (path, content) => ⟨path, content, item⟩ },
    batch.map fun (path, content) => .fileEmitted path (Utf8.size content)⟩

/-- All files of a batch, or none of them and a failure. -/
def insertAll (output : Output) (item : Item) (batch : List (String × String)) :
    Traced (Output × Bool) :=
  match output.conflict? item [] batch with
  | some failure => do return (← output.addFailure item failure, false)
  | none => do return (← output.emit item batch, true)

end Output

namespace Generation

def takenBy? (taken : TakenNames) (identifier : String) (item : Item) : Option Failure :=
  (KeyedList.find? identifier taken).map fun first =>
    .namingCollision identifier first.text item.text

def routerStem (module : String) : String := module ++ "/index.routes"
def controllerStem (module : String) : String :=
  module ++ "/controllers/" ++ module ++ ".controller"
def serviceStem (module : String) : String := module ++ "/services/" ++ module ++ ".service"
def schemaStem (module : String) : String := module ++ "/schemas/" ++ module ++ ".schema"
def mainRouterStem : String := "routes"
def entityIndexStem : String := "index"

def fileIf (enabled : Bool) (path content : String) : List (String × String) :=
  if enabled then [(path, content)] else []

/-- The enabled files of a module. -/
def moduleFiles (options : Options) (module : ModuleRoutes) :
    Except Failure (List (String × String)) := do
  let name := module.module
  let artifacts := options.artifacts
  let handlers ← Handler.ofModule module
  let service ← if artifacts.services then do
      let service ← ModuleService.ofHandlers handlers
      pure [(options.fileName (serviceStem name), service.text)]
    else pure []
  return fileIf artifacts.routes (options.fileName (routerStem name))
      (ModuleRouter.ofHandlers name handlers).text
    ++ fileIf artifacts.controllers (options.fileName (controllerStem name))
      (ModuleController.ofHandlers name handlers).text
    ++ service
    ++ fileIf artifacts.schemas (options.fileName (schemaStem name))
      (ModuleSchemas.ofHandlers handlers).text

def emitModule (options : Options) (output : Output) (module : ModuleRoutes) :
    Traced (Output × Bool) :=
  match moduleFiles options module with
  | .error failure => do return (← output.addFailure (.module module.module) failure, false)
  | .ok batch => output.insertAll (.module module.module) batch

/-- What a pass over modules or entities has come to: the output, the identifiers that are taken,
and what was emitted. -/
structure Progress (α : Type) where
  output : Output
  taken : TakenNames := []
  emitted : List α := []

/-- One item: it is skipped where its identifier is taken, and takes it once it is emitted. -/
def Progress.step {α : Type} (progress : Progress α) (a : α) (item : Item) (identifier : String)
    (emit : Output → Traced (Output × Bool)) : Traced (Progress α) :=
  match takenBy? progress.taken identifier item with
  | some failure => do
    return { progress with output := ← progress.output.addFailure item failure }
  | none => do
    let (output, done) ← emit progress.output
    if done then
      return ⟨output, progress.taken ++ [(identifier, item)], progress.emitted ++ [a]⟩
    else return { progress with output := output }

def moduleStep (options : Options) (progress : Progress String) (module : ModuleRoutes) :
    Traced (Progress String) :=
  progress.step module.module (.module module.module) (Naming.moduleIdentifier module.module)
    fun output => emitModule options output module

def entityFile (options : Options) (entity : Entity) : String × String :=
  (options.fileName (EntityFile.stem entity.name),
    (EntityFile.ofEntity options.entities entity).text)

def entityStep (options : Options) (progress : Progress Entity) (entity : Entity) :
    Traced (Progress Entity) :=
  progress.step entity (.entity entity.schemaName) (Naming.typeIdentifier entity.name)
    fun output => output.insertAll (.entity entity.schemaName) [entityFile options entity]

/-- The modules, then the router that mounts those that were emitted. -/
def emitModules (options : Options) (modules : List ModuleRoutes) (output : Output) :
    Traced Output := do
  let progress ← modules.foldlM (moduleStep options) { output := output }
  if options.artifacts.routes && !modules.isEmpty then
    let content := (MainRouter.ofModules progress.emitted).text
    return (← progress.output.insertAll .mainRouter
      [(options.fileName mainRouterStem, content)]).1
  else return progress.output

/-- The entities, then the index of those that were emitted. -/
def emitEntities (options : Options) (entities : List Entity) (output : Output) :
    Traced Output := do
  let progress ← entities.foldlM (entityStep options) { output := output }
  if entities.isEmpty then return progress.output
  else
    let content := EntityIndex.text
      (EntityIndex.ofEntities options.entities.exportForm progress.emitted)
    return (← progress.output.insertAll .entityIndex
      [(options.fileName entityIndexStem, content)]).1

def emitAll (options : Options) (modules : List ModuleRoutes) (entities : List Entity) :
    Traced Output := do
  let output ← emitModules options modules {}
  let output ← emitEntities options entities output
  Traced.report (.generationFinished output.files.length output.failures.length)
  return output

/-- Failures of the document end the run before any file is emitted; a failure of an item leaves
that item out. -/
def run (options : Options) (doc : Document) : Attempt Output := do
  let modules ← if options.artifacts.hasModuleFiles then doc.extractModules options.bearerScheme
    else pure []
  let entities ← if options.artifacts.entities then
      Entity.extract doc options.unresolvedEntityReferences
    else pure []
  ExceptT.lift (emitAll options modules entities)

end Generation
end OpenApiGen
