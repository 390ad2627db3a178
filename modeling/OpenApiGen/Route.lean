import OpenApiGen.Parameter
import OpenApiGen.RequestBody

/-! # Modules, routes and methods of a document -/

namespace OpenApiGen

structure Method where
  verb : Verb
  parameters : List Parameter
  body : Option RequestBody
  requiresAuth : Bool
deriving Repr

namespace Method

def parametersIn (method : Method) (location : Location) : List Parameter :=
  method.parameters.filter (·.location = location)

def hasPathParameters (method : Method) : Bool := !(method.parametersIn .path).isEmpty

def hasQueryParameters (method : Method) : Bool := !(method.parametersIn .query).isEmpty

end Method

structure Route where
  template : String
  sourcePath : String
  methods : List Method
deriving Repr

/-- The routes whose paths start with the same segment. -/
structure ModuleRoutes where
  module : String
  routes : List Route
deriving Repr

/-- The first segment of a path that is not empty. -/
def moduleOf? (path : String) : Option String :=
  ((path.toList.splitOn '/').find? fun segment => !segment.isEmpty).map String.ofList

/-- `{name}` becomes `:name`: an opening brace turns into a colon, a closing one is dropped. -/
def routeTemplate (path : String) : String :=
  String.ofList (path.toList.flatMap fun c =>
    if c = '{' then [':'] else if c = '}' then [] else [c])

namespace Document

def defaultBearerScheme : String := "bearerAuth"

def addModule (modules : List String) (module : String) : List String :=
  if modules.contains module then modules else modules ++ [module]

/-- Modules in the order in which paths name them first. -/
def modules (doc : Document) : List String :=
  (doc.paths.filterMap fun (path, _) => moduleOf? path).foldl addModule []

def pathsWithoutModule (doc : Document) : List String :=
  (KeyedList.keys doc.paths).filter fun path => (moduleOf? path).isNone

def discoverModules (doc : Document) : Traced (List String) :=
  ⟨doc.modules, doc.pathsWithoutModule.map .pathSkipped⟩

/-- A scheme that the document declares speaks for itself; where it declares none, the name
counts. -/
def namesBearer (doc : Document) (bearer name : String) : Bool :=
  if doc.components.securitySchemes.isEmpty then name == bearer
  else (KeyedList.find? name doc.components.securitySchemes).any SecurityScheme.isBearer

def requiresBearer (doc : Document) (bearer : String) (operation : Operation) : Bool :=
  operation.security.any fun requirements =>
    requirements.any fun requirement =>
      (KeyedList.keys requirement).any (doc.namesBearer bearer)

def operationContext (verb : Verb) (path : String) : String := verb.upperName ++ " " ++ path

def extractMethod (doc : Document) (bearer path : String) (verb : Verb) (operation : Operation) :
    Attempt Method := do
  let context := operationContext verb path
  let parameters ← ExceptT.mk
    (pure (Parameter.resolveAll doc context (operation.parameters.getD [])))
  let body ← match operation.requestBody with
    | none => pure none
    | some body => ExceptT.lift (RequestBody.extract doc body)
  let requiresAuth := doc.requiresBearer bearer operation
  Attempt.report (.methodExtracted context parameters.length body.isSome requiresAuth)
  return ⟨verb, parameters, body, requiresAuth⟩

def extractRoute (doc : Document) (bearer path : String) (item : PathItem) : Attempt Route := do
  let methods ← item.mapM fun (verb, operation) => doc.extractMethod bearer path verb operation
  return ⟨routeTemplate path, path, methods⟩

def extractModule (doc : Document) (bearer module : String) : Attempt ModuleRoutes := do
  let paths := doc.paths.filter fun (path, _) => moduleOf? path = some module
  let routes ← paths.mapM fun (path, item) => doc.extractRoute bearer path item
  return ⟨module, routes⟩

/-- Every module with its routes; the first parameter that cannot be found fails all of them. -/
def extractModules (doc : Document) (bearer : String) : Attempt (List ModuleRoutes) := do
  let modules ← ExceptT.lift doc.discoverModules
  Attempt.report (.modulesDiscovered modules)
  modules.mapM (doc.extractModule bearer)

end Document
end OpenApiGen
