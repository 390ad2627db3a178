import OpenApiGen.Handler
import OpenApiGen.ModuleController

/-! # Services: a function per handler, and the types of what it is called with -/

namespace OpenApiGen

/-- The type of a schema that is declared once per file. -/
structure Declaration where
  identifier : String
  schema : String
  type : TypeExpr
deriving Repr

namespace Declaration

def owner (schema : String) : String := "components.schemas." ++ schema

def text (d : Declaration) : String :=
  "type " ++ d.identifier ++ " = " ++ d.type.text 0 ++ ";\n"

end Declaration

/-- An identifier keeps its first position and takes its last declaration. -/
def Declaration.put (d : Declaration) : List Declaration → List Declaration
  | [] => [d]
  | e :: rest => if e.identifier = d.identifier then d :: rest else e :: put d rest

/-- Declarations so far, in the order in which their identifiers were completed first. -/
abbrev Declaring := StateT (List Declaration) (Except Failure)

namespace RequestBody

def recordType (fields : List (String × Bool × TypeExpr)) : TypeExpr :=
  if fields.isEmpty then .object else .record fields

/-- The declaration under the identifier of a schema, if it was made for this schema. -/
def declared? (declarations : List Declaration) (identifier schema : String) :
    Except Failure Bool :=
  match declarations.find? (·.identifier == identifier) with
  | none => .ok false
  | some d =>
    if d.schema = schema then .ok true
    else .error
      (.namingCollision identifier (Declaration.owner d.schema) (Declaration.owner schema))

mutual

/-- The type of a body. Objects that come from a schema are declared under its name, after the
objects inside of them. -/
def type : RequestBody → Declaring TypeExpr
  | .leaf type _ _ _ _ => return type
  | .cut name _ _ => return .named (Naming.typeIdentifier name)
  | .array item => return .array (← type item)
  | .object none required properties => return recordType (← fieldTypes required properties)
  | .object (some origin) required properties => do
    let identifier := Naming.typeIdentifier origin.name
    if ← declared? (← get) identifier origin.name then return .named identifier
    else do
      let fields ← fieldTypes required properties
      modify (Declaration.put ⟨identifier, origin.name, recordType fields⟩)
      return .named identifier

def fieldTypes (required : List String) :
    List (String × RequestBody) → Declaring (List (String × Bool × TypeExpr))
  | [] => return []
  | (name, body) :: rest => do
    let t ← type body
    return (Naming.propertyKey name, !required.contains name, t) :: (← fieldTypes required rest)

end

def isNamedObject : RequestBody → Bool
  | .object (some _) _ _ => true
  | _ => false

end RequestBody

/-- A type that a handler brings along. -/
structure TypeAlias where
  name : String
  type : TypeExpr
deriving Repr

def TypeAlias.text (a : TypeAlias) : String := "type " ++ a.name ++ " = " ++ a.type.text 0 ++ ";\n"

structure ServiceFunction where
  name : String
  aliases : List TypeAlias
  arguments : List (RequestPart × String)
  owner : String
deriving Repr

namespace ServiceFunction

def parametersType (parameters : List Parameter) : TypeExpr :=
  .record (parameters.map fun p => (Naming.propertyKey p.name, !p.required, p.type))

/-- The alias of the parameters in one location, where there are any. -/
def parametersAlias (handler : Handler) (location : Location) (ending : String) :
    List TypeAlias :=
  let parameters := handler.method.parametersIn location
  if parameters.isEmpty then [] else [⟨handler.typeName ++ ending, parametersType parameters⟩]

/-- The type of the body: a declared one by its name, any other one under an alias. -/
def bodyType (handler : Handler) : Declaring (Option (String × List TypeAlias)) :=
  match handler.method.body with
  | none => return none
  | some body => do
    let t ← body.type
    if body.isNamedObject then return some (t.text 0, [])
    else
      let name := handler.typeName ++ "Body"
      return some (name, [⟨name, t⟩])

def ofHandler (handler : Handler) : Declaring ServiceFunction := do
  let params := parametersAlias handler .path "Params"
  let body ← bodyType handler
  let query := parametersAlias handler .query "Query"
  return {
    name := handler.name
    aliases := params ++ (body.map Prod.snd).getD [] ++ query
    arguments := params.map (fun a => (.params, a.name))
      ++ body.toList.map (fun b => (.body, b.1)) ++ query.map (fun a => (.query, a.name))
    owner := handler.describe }

def text (f : ServiceFunction) : String :=
  String.join (f.aliases.map fun a => a.text ++ "\n")
    ++ "async function " ++ f.name ++ "("
    ++ ", ".intercalate (f.arguments.map fun (part, type) => part.name ++ ": " ++ type)
    ++ ") \x7b\n  return null;\n\x7d\n"

end ServiceFunction

structure ModuleService where
  declarations : List Declaration
  functions : List ServiceFunction
  exports : List String
deriving Repr

namespace ModuleService

/-- The last handler with an alias of this name. -/
def aliasOwner? (functions : List ServiceFunction) (name : String) : Option String :=
  (functions.reverse.find? fun f => f.aliases.any (·.name == name)).map ServiceFunction.owner

/-- A declared name that is also the name of an alias. -/
def clash? (declarations : List Declaration) (functions : List ServiceFunction) :
    Option Failure :=
  declarations.findSome? fun d =>
    (aliasOwner? functions d.identifier).map fun owner =>
      .namingCollision d.identifier (Declaration.owner d.schema) owner

def ofHandlers (handlers : List Handler) : Except Failure ModuleService := do
  let (functions, declarations) ← (handlers.mapM ServiceFunction.ofHandler).run []
  match clash? declarations functions with
  | some failure => .error failure
  | none => .ok ⟨declarations, functions, handlers.map Handler.name⟩

def text (service : ModuleService) : String :=
  "\n".intercalate
    (service.declarations.map Declaration.text ++ service.functions.map ServiceFunction.text)
    ++ defaultExport service.exports

end ModuleService
end OpenApiGen
