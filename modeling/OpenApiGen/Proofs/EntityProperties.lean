import OpenApiGen.Entity

/-! # A property of an entity, step by step: its references, what is nested in it, its record -/

namespace OpenApiGen

/-- The items of an array, and nothing of any other schema. -/
def Schema.element? (schema : Schema) : Option Schema :=
  if schema.kind = .array then schema.items else none

theorem Schema.element?_of_array {schema : Schema} (h : schema.kind = .array) :
    schema.element? = schema.items := by
  rw [element?, if_pos h]

theorem Schema.element?_of_ne_array {schema : Schema} (h : schema.kind ≠ .array) :
    schema.element? = none := by
  rw [element?, if_neg h]

namespace Entity

variable (doc : Document) (policy : ReferencePolicy)

/-- What is recorded of a property, with the type and the name that its references have led to, and
with what is nested in it. -/
def recordProperty (name : String) (required : Bool) (schema : Schema)
    (found : TypeExpr × Option String) (nested : List EntityProperty) : EntityProperty where
  name := name
  type := found.1
  baseKind := if schema.kind = .array then (schema.element?.map Schema.kind).getD .unknown
    else schema.kind
  required := required
  nullable := schema.isNullable
  format := schema.format <|> schema.element?.bind Schema.format
  description := schema.description
  isArray := schema.kind = .array
  isObject := schema.kind = .object
  reference := found.2
  nested := nested
  literals := (schema.literals? <|> schema.element?.bind Schema.literals?).getD []
  defaultValue := schema.defaultValue
  exampleValue := schema.exampleValue

/-- The references of a property: its own one, then that of its element. -/
def followAll (context : String) (schema : Schema) : Attempt (TypeExpr × Option String) := do
  let found ← followReference doc policy context .any schema.reference (schema.typeExpr, none)
  followReference doc policy context (.array .any) (schema.element?.bind Schema.reference) found

/-- The properties of an object, or of the objects in an array. -/
def flattenNested (context : String) (schema : Schema) : Attempt (List EntityProperty) :=
  if schema.kind = .array then flattenItems doc policy context schema.items
  else if schema.kind = .object then
    flattenAll doc policy context schema.required schema.properties
  else return []

theorem flattenItems_some (context : String) (items : Schema) :
    flattenItems doc policy context (some items) =
      if items.kind = .object then flattenAll doc policy context items.required items.properties
      else return [] := by
  cases items
  rw [flattenItems]

theorem flattenProperty_eq (name context : String) (required : Bool) (schema : Schema) :
    flattenProperty doc policy name context required schema = (do
      let found ← followAll doc policy context schema
      let nested ← flattenNested doc policy context schema
      return recordProperty name required schema found nested) := by
  unfold followAll flattenNested recordProperty Schema.element?
  cases schema
  rw [flattenProperty, bind_assoc]
  dsimp only
  generalize Schema.kind _ = kind
  by_cases ha : kind = .array
  · simp only [ha, decide_true, if_true]
  · by_cases ho : kind = .object
    · simp only [ho, reduceCtorEq, decide_false, decide_true, if_true, if_false]
    · simp only [ha, ho, decide_false, if_false]
      rfl

end Entity
end OpenApiGen
