import OpenApiGen.Document
import OpenApiGen.Failure
import OpenApiGen.TypeExpr

/-! # Parameters of operations -/

namespace OpenApiGen

structure Parameter where
  name : String
  location : Location
  kind : SchemaKind
  type : TypeExpr
  itemKind : Option SchemaKind
  literals : List Json
  required : Bool
deriving Repr

namespace Parameter

/-- A schema of unknown kind counts as none, and without a schema a parameter is a string. -/
def ofEntry (entry : ParameterEntry) : Parameter :=
  match entry.schema.filter (·.kind != .unknown) with
  | none =>
    { name := entry.name, location := entry.location, kind := .string, type := .string,
      itemKind := none, literals := [], required := entry.required.getD false }
  | some schema =>
    { name := entry.name, location := entry.location, kind := schema.kind
      type := schema.typeExpr
      itemKind := schema.items.map Schema.kind
      literals := (schema.literals? <|> schema.items.bind Schema.literals?).getD []
      required := entry.required.getD false }

def resolve (doc : Document) (context : String) :
    Referable ParameterEntry → Except Failure Parameter
  | .inline entry => .ok (ofEntry entry)
  | .reference pointer =>
    match (Reference.componentName? pointer .parameters).bind
        fun name => KeyedList.find? name doc.components.parameters with
    | some entry => .ok (ofEntry entry)
    | none => .error (.unresolvedReference pointer context)

/-- A reference that leads nowhere fails the whole list. -/
def resolveAll (doc : Document) (context : String) (entries : List (Referable ParameterEntry)) :
    Except Failure (List Parameter) :=
  entries.mapM (resolve doc context)

end Parameter
end OpenApiGen
