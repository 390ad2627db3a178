import OpenApiGen.Naming

/-! # Handlers: the methods of a module under the names they get -/

namespace OpenApiGen

structure Handler where
  name : String
  typeName : String
  relativeRoute : String
  route : Route
  method : Method
deriving Repr

namespace Handler

def schemaConst (handler : Handler) : String := handler.name ++ "Schema"

def schemaType (handler : Handler) : String := handler.typeName ++ "Schema"

def describe (handler : Handler) : String :=
  handler.method.verb.upperName ++ " " ++ handler.route.sourcePath

def ofMethod (module : String) (route : Route) (method : Method) : Handler :=
  let name := Naming.handlerName method.verb.name route.template
  { name := name
    typeName := Naming.capitalize name
    relativeRoute := Naming.relativeRoute module route.template
    route := route
    method := method }

/-- One handler per method, in the order of the routes and of their methods. -/
def candidates (module : ModuleRoutes) : List Handler :=
  module.routes.flatMap fun route => route.methods.map (ofMethod module.module route)

/-- Handlers are added from the left, until one has the name of an earlier one. -/
def addDistinct (taken : List Handler) : List Handler → Except Failure (List Handler)
  | [] => .ok taken
  | handler :: rest =>
    match taken.find? (·.name == handler.name) with
    | some first => .error (.namingCollision handler.name first.describe handler.describe)
    | none => addDistinct (taken ++ [handler]) rest

def ofModule (module : ModuleRoutes) : Except Failure (List Handler) :=
  addDistinct [] (candidates module)

end Handler
end OpenApiGen
