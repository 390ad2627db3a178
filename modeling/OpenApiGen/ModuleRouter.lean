import OpenApiGen.Handler
import OpenApiGen.SourceText

/-! # Routers: the plugin of a module, and the plugin that mounts all modules -/

namespace OpenApiGen

def pluginImport : Import :=
  ⟨true, .names ["FastifyPluginAsyncZod"], "fastify-type-provider-zod"⟩

def authImport : Import := ⟨false, .names ["jwtMiddleware"], "@/shared/jwt-middleware.js"⟩

/-- A handler under its verb and URL. -/
structure Registration where
  verb : Verb
  url : String
  schema : String
  guarded : Bool
  handler : String
deriving DecidableEq, Repr

namespace Registration

def ofHandler (controller : String) (handler : Handler) : Registration :=
  { verb := handler.method.verb
    url := handler.relativeRoute
    schema := handler.schemaConst
    guarded := handler.method.requiresAuth
    handler := controller ++ "." ++ handler.name }

/-- There is no short form for `trace`. -/
def text (r : Registration) : String :=
  match r.verb with
  | .trace =>
    "app.route(\x7b method: \"TRACE\", url: \"" ++ r.url ++ "\", ..." ++ r.schema ++ ","
      ++ (if r.guarded then " onRequest: [jwtMiddleware]," else "")
      ++ " handler: " ++ r.handler ++ " \x7d);"
  | verb =>
    "app." ++ verb.name ++ "(\"" ++ r.url ++ "\", "
      ++ (if r.guarded then "\x7b ..." ++ r.schema ++ ", onRequest: [jwtMiddleware] \x7d"
          else r.schema)
      ++ ", " ++ r.handler ++ ");"

end Registration

structure ModuleRouter where
  imports : List Import
  name : String
  registrations : List Registration
deriving DecidableEq, Repr

namespace ModuleRouter

def controllerName (module : String) : String := Naming.moduleIdentifier module ++ "Controller"

def routerName (module : String) : String := Naming.moduleIdentifier module ++ "Router"

def ofHandlers (module : String) (handlers : List Handler) : ModuleRouter :=
  let controller := controllerName module
  let schemas : List Import :=
    if handlers.isEmpty then []
    else [⟨false, .block (handlers.map Handler.schemaConst), schemaSource module⟩]
  let auth := if handlers.any (·.method.requiresAuth) then [authImport] else []
  { imports :=
      pluginImport :: schemas ++ ⟨false, .default controller, controllerSource module⟩ :: auth
    name := routerName module
    registrations := handlers.map (Registration.ofHandler controller) }

def text (router : ModuleRouter) : String :=
  Import.allText router.imports
    ++ "\nconst " ++ router.name ++ ": FastifyPluginAsyncZod = async (app) => \x7b\n"
    ++ String.join (router.registrations.map fun r => "  " ++ r.text ++ "\n")
    ++ "\x7d;\n"
    ++ "\nexport default " ++ router.name ++ ";\n"

end ModuleRouter

/-- A router under the path of its module. -/
structure Mount where
  router : String
  path : String
deriving DecidableEq, Repr

structure MainRouter where
  imports : List Import
  mounts : List Mount
deriving DecidableEq, Repr

namespace MainRouter

def ofModules (modules : List String) : MainRouter :=
  { imports :=
      (modules.map fun module =>
        ⟨false, .default (ModuleRouter.routerName module), "@" ++ module ++ "/index.routes.js"⟩)
        ++ [pluginImport]
    mounts := modules.map fun module => ⟨ModuleRouter.routerName module, "/" ++ module⟩ }

def mountText (mount : Mount) : String :=
  "  await app.register(" ++ mount.router ++ ", \x7b prefix: \"" ++ mount.path ++ "\" \x7d);\n"

def text (router : MainRouter) : String :=
  Import.allText router.imports
    ++ "\nconst mainRouter: FastifyPluginAsyncZod = async (app) => \x7b\n"
    ++ String.join (router.mounts.map mountText)
    ++ "\x7d;\n\nexport default mainRouter;\n"

end MainRouter
end OpenApiGen
