import OpenApiGen.Document
import OpenApiGen.Trace
import OpenApiGen.TypeExpr

/-! # Request bodies: finite trees of schemas that refer to each other -/

namespace OpenApiGen

/-- The schema that an object was reached by, and the reference that named it. -/
structure Origin where
  name : String
  reference : String
deriving DecidableEq, Repr

/-- A leaf keeps the type and the literals of its schema. A cut stands for the enclosing object of
the same name. -/
inductive RequestBody
  | leaf (type : TypeExpr) (kind : SchemaKind) (literals : List Json) (nullable : Bool)
      (description : Option String)
  | cut (name : String) (nullable : Bool) (description : Option String)
  | object (origin : Option Origin) (required : List String)
      (properties : List (String × RequestBody))
  | array (item : RequestBody)
deriving Repr, Inhabited

namespace RequestBody

def untyped (description : Option String) : RequestBody := .leaf .any .unknown [] false description

def name? : RequestBody → Option String
  | .object origin _ _ => origin.map Origin.name
  | _ => none

def deepest : Nat := 64

def ofLeaf (schema : Schema) : RequestBody :=
  .leaf schema.typeExpr schema.kind (schema.literals?.getD []) schema.isNullable schema.description

/-- `levels` is what is left of the greatest depth, `enclosing` holds the names of the schemas that
are being followed, and `origin` how this one was reached. A reference back to an enclosing object
is cut; references that lead nowhere give nothing, and below the top an untyped leaf. -/
def flattenFrom (doc : Document) (levels : Nat) (enclosing : List String) (origin : Option Origin)
    (schema : Schema) : Traced (Option RequestBody) :=
  match levels with
  | 0 => do
    Traced.report (.bodyTruncated (deepest + 1))
    return some (untyped schema.description)
  | levels + 1 =>
    match schema.reference with
    | some reference =>
      match Reference.componentName? reference .schemas with
      | none => do
        Traced.report (.bodyReferenceForeign reference (Reference.classify reference))
        return none
      | some name =>
        match doc.schema? name with
        | none => do
          Traced.report (.bodySchemaMissing reference)
          return none
        | some target =>
          if enclosing.contains name then
            if target.kind = .object then do
              Traced.report (.bodyCycleCut name)
              return some (.cut name schema.isNullable schema.description)
            else do
              Traced.report (.bodyCycleUntyped name)
              return some (untyped schema.description)
          else flattenFrom doc levels (name :: enclosing) (some ⟨name, reference⟩) target
    | none =>
      match schema.kind with
      | .object => do
        let properties ← schema.properties.mapM fun (name, property) => do
          let body ← flattenFrom doc levels enclosing none property
          return (name, body.getD (untyped property.description))
        return some (.object origin schema.required properties)
      | .array => match schema.items with
        | none => return some (.array (untyped none))
        | some items => do
          let item ← flattenFrom doc levels enclosing none items
          return some (.array (item.getD (untyped none)))
      | _ => return some (ofLeaf schema)

def flatten (doc : Document) (schema : Schema) : Traced (Option RequestBody) :=
  flattenFrom doc (deepest + 1) [] none schema

def mediaType : String := "application/json"

def ofEntry (doc : Document) (entry : BodyEntry) : Traced (Option RequestBody) :=
  match (KeyedList.find? mediaType entry.content).bind MediaType.schema with
  | none => return none
  | some schema => flatten doc schema

/-- A body is optional: one that cannot be found is left out. -/
def extract (doc : Document) : Referable BodyEntry → Traced (Option RequestBody)
  | .inline entry => ofEntry doc entry
  | .reference pointer =>
    match (Reference.componentName? pointer .requestBodies).bind
        fun name => KeyedList.find? name doc.components.requestBodies with
    | some entry => ofEntry doc entry
    | none => do
      Traced.report (.bodySkipped pointer (Reference.classify pointer))
      return none

end RequestBody
end OpenApiGen
