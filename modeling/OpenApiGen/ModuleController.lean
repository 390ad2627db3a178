import OpenApiGen.Handler
import OpenApiGen.SourceText

/-! # Controllers: one function per handler, which answers with what the service returns -/

namespace OpenApiGen

/-- A part of a request that a handler passes on. -/
inductive RequestPart
  | params | body | query
deriving DecidableEq, Repr

def RequestPart.name : RequestPart → String
  | .params => "params"
  | .body => "body"
  | .query => "query"

/-- The parts that a method declares, in the order in which they are passed on. -/
def Method.parts (method : Method) : List RequestPart :=
  (if method.hasPathParameters then [.params] else [])
    ++ (if method.body.isSome then [.body] else [])
    ++ (if method.hasQueryParameters then [.query] else [])

def Verb.successStatus : Verb → Nat
  | .post => 201
  | _ => 200

structure ControllerFunction where
  name : String
  requestType : String
  status : Nat
  service : String
  parts : List RequestPart
deriving DecidableEq, Repr

namespace ControllerFunction

def ofHandler (service : String) (handler : Handler) : ControllerFunction :=
  { name := handler.name
    requestType := handler.schemaType
    status := handler.method.verb.successStatus
    service := service
    parts := handler.method.parts }

def text (f : ControllerFunction) : String :=
  "\nasync function " ++ f.name ++ "(req: FastifyRequest<" ++ f.requestType ++ ">) \x7b\n"
    ++ "  return new ApiResponse(\n"
    ++ "    " ++ toString f.status ++ ",\n"
    ++ "    \"Success\",\n"
    ++ "    await " ++ f.service ++ "." ++ f.name ++ "("
    ++ ", ".intercalate (f.parts.map fun part => "req." ++ part.name) ++ "),\n"
    ++ "  );\n\x7d\n"

end ControllerFunction

structure ModuleController where
  imports : List Import
  functions : List ControllerFunction
  exports : List String
deriving DecidableEq, Repr

namespace ModuleController

def serviceName (module : String) : String := Naming.moduleIdentifier module ++ "Service"

def ofHandlers (module : String) (handlers : List Handler) : ModuleController :=
  let service := serviceName module
  let schemas : List Import :=
    if handlers.isEmpty then []
    else [⟨true, .block (handlers.map Handler.schemaType), schemaSource module⟩]
  { imports := ⟨true, .names ["FastifyRequest"], "fastify"⟩ :: schemas
      ++ [⟨false, .names ["ApiResponse"], "@/shared/api-response.js"⟩,
        ⟨false, .default service, serviceSource module⟩]
    functions := handlers.map (ControllerFunction.ofHandler service)
    exports := handlers.map Handler.name }

def text (controller : ModuleController) : String :=
  Import.allText controller.imports
    ++ String.join (controller.functions.map ControllerFunction.text)
    ++ defaultExport controller.exports

end ModuleController
end OpenApiGen
