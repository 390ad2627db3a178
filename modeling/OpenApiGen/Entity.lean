import OpenApiGen.Document
import OpenApiGen.Trace
import OpenApiGen.TypeExpr

/-! # Entities: the schemas that describe stored records -/

namespace OpenApiGen

/-- What becomes of the reference of a property that leads nowhere. -/
inductive ReferencePolicy
  | error | untyped
deriving DecidableEq, Repr

structure EntityProperty where
  name : String
  type : TypeExpr
  baseKind : SchemaKind
  required : Bool
  nullable : Bool
  format : Option String
  description : Option String
  isArray : Bool
  isObject : Bool
  reference : Option String
  nested : List EntityProperty
  literals : List Json
  defaultValue : Option Json
  exampleValue : Option Json
deriving Repr

structure Entity where
  name : String
  schemaName : String
  properties : List EntityProperty
deriving Repr

namespace Entity

def suffix : String := "Entity"

def stripSuffix? (name : String) : Option String :=
  (Text.before? suffix.toList name.toList).map String.ofList

theorem stripSuffix?_eq_some_iff {schemaName name : String} :
    stripSuffix? schemaName = some name ↔ schemaName = name ++ suffix := by
  simp only [stripSuffix?, Option.map_eq_some_iff, Text.before?_eq_some_iff]
  rw [← String.toList_inj, String.toList_append]
  constructor
  · rintro ⟨front, hfront, rfl⟩
    rw [String.toList_ofList, hfront]
  · intro h
    exact ⟨name.toList, h, String.ofList_toList⟩

def resolves (doc : Document) (reference : String) : Bool :=
  ((Reference.componentName? reference .schemas).bind doc.schema?).isSome

/-- Whether a reference leads to a schema. -/
def checkReference (doc : Document) (policy : ReferencePolicy) (context reference : String) :
    Attempt Bool :=
  if resolves doc reference then return true
  else match policy with
    | .error => throw (.unresolvedReference reference context)
    | .untyped => do
      Attempt.report (.entityReferenceUntyped reference context)
      return false

/-- The type and the name that a reference gives, if there is one; `otherwise` is the type of one
that leads nowhere. -/
def followReference (doc : Document) (policy : ReferencePolicy) (context : String)
    (otherwise : TypeExpr) (reference : Option String) (current : TypeExpr × Option String) :
    Attempt (TypeExpr × Option String) :=
  match reference with
  | none => return current
  | some reference => do
    if ← checkReference doc policy context reference then
      return (current.1, Reference.componentName? reference .schemas)
    else return (otherwise, current.2)

mutual

/-- A property and the properties of the objects written down in it. References are not followed. -/
def flattenProperty (doc : Document) (policy : ReferencePolicy) (name context : String)
    (required : Bool) : Schema → Attempt EntityProperty
  | schema@{ properties := properties, items := items, required := names, .. } => do
    let kind := schema.kind
    let isArray := decide (kind = .array)
    let element := if isArray then items else none
    let found ← followReference doc policy context .any schema.reference (schema.typeExpr, none)
    let found ← followReference doc policy context (.array .any) (element.bind Schema.reference)
      found
    let nested ←
      if isArray then flattenItems doc policy context items
      else if kind = .object then flattenAll doc policy context names properties
      else pure []
    return {
      name := name
      type := found.1
      baseKind := if isArray then (element.map Schema.kind).getD .unknown else kind
      required := required
      nullable := schema.isNullable
      format := schema.format <|> element.bind Schema.format
      description := schema.description
      isArray := isArray
      isObject := kind = .object
      reference := found.2
      nested := nested
      literals := (schema.literals? <|> element.bind Schema.literals?).getD []
      defaultValue := schema.defaultValue
      exampleValue := schema.exampleValue }

/-- The properties of items that are written down in place. -/
def flattenItems (doc : Document) (policy : ReferencePolicy) (context : String) :
    Option Schema → Attempt (List EntityProperty)
  | none => return []
  | some schema@{ properties := properties, required := names, .. } =>
    if schema.kind = .object then flattenAll doc policy context names properties else return []

def flattenAll (doc : Document) (policy : ReferencePolicy) (owner : String)
    (required : List String) : List (String × Schema) → Attempt (List EntityProperty)
  | [] => return []
  | (name, schema) :: rest => do
    let property ← flattenProperty doc policy name (owner ++ "." ++ name)
      (required.contains name) schema
    return property :: (← flattenAll doc policy owner required rest)

end

def flattenSchema (doc : Document) (policy : ReferencePolicy) (owner : String) (schema : Schema) :
    Attempt (List EntityProperty) :=
  flattenAll doc policy owner schema.required schema.properties

def ofSchemas (doc : Document) (policy : ReferencePolicy) :
    List (String × Schema) → Attempt (List Entity)
  | [] => return []
  | (schemaName, schema) :: rest =>
    match stripSuffix? schemaName with
    | none => ofSchemas doc policy rest
    | some name =>
      if name.isEmpty then
        throw (.invalid ("components.schemas." ++ schemaName) .emptyEntityName)
      else do
        let properties ← flattenSchema doc policy schemaName schema
        return ⟨name, schemaName, properties⟩ :: (← ofSchemas doc policy rest)

/-- The schemas whose names end in the suffix, in the order in which they are declared. -/
def extract (doc : Document) (policy : ReferencePolicy) : Attempt (List Entity) := do
  let entities ← ofSchemas doc policy doc.components.schemas
  Attempt.report (.entitiesExtracted entities.length)
  return entities

def schemaNames (doc : Document) (policy : ReferencePolicy) : Attempt (List String) := do
  return (← extract doc policy).map schemaName

def answersTo (name : String) (entity : Entity) : Bool :=
  entity.name == name || entity.schemaName == name

/-- The entity with this name, stripped or not. Two of them collide. -/
def find? (doc : Document) (policy : ReferencePolicy) (name : String) :
    Attempt (Option Entity) := do
  match (← extract doc policy).filter (answersTo name) with
  | [] => return none
  | [entity] => return some entity
  | first :: second :: _ =>
    throw (.namingCollision name first.schemaName second.schemaName)

end Entity
end OpenApiGen
