import OpenApiGen.ShapeDecoding

/-! # Schemas of an API description -/

namespace OpenApiGen

/-- What a schema says about the form of its values. -/
inductive SchemaKind
  | string | number | integer | boolean | array | object | reference | unknown
deriving DecidableEq, Repr

def SchemaKind.ofTypeName : String → SchemaKind
  | "string" => .string
  | "number" => .number
  | "integer" => .integer
  | "boolean" => .boolean
  | "array" => .array
  | "object" => .object
  | _ => .unknown

def SchemaKind.name : SchemaKind → String
  | .string => "string"
  | .number => "number"
  | .integer => "integer"
  | .boolean => "boolean"
  | .array => "array"
  | .object => "object"
  | .reference => "reference"
  | .unknown => "unknown"

def SchemaKind.isNumeric (kind : SchemaKind) : Bool := kind = .number || kind = .integer

/-- The keyword `type`: one name, or several of which `null` is one at times. -/
inductive TypeKeyword
  | single (name : String)
  | several (names : List String)
deriving DecidableEq, Repr

def TypeKeyword.kind : TypeKeyword → SchemaKind
  | .single name => .ofTypeName name
  | .several names => match names.filter (· != "null") with
    | [name] => .ofTypeName name
    | _ => .unknown

def TypeKeyword.allowsNull : TypeKeyword → Bool
  | .single _ => false
  | .several names => names.contains "null"

structure Schema where
  type : Option TypeKeyword := none
  format : Option String := none
  nullable : Bool := false
  enumeration : Option (List Json) := none
  defaultValue : Option Json := none
  exampleValue : Option Json := none
  description : Option String := none
  properties : List (String × Schema) := []
  items : Option Schema := none
  required : List String := []
  reference : Option String := none
deriving Repr, Inhabited

namespace Schema

/-- A reference wins over everything else, and properties alone make an object. -/
def kind (schema : Schema) : SchemaKind :=
  if schema.reference.isSome then .reference
  else match schema.type with
    | some type => type.kind
    | none => if schema.properties.isEmpty then .unknown else .object

def isNullable (schema : Schema) : Bool :=
  schema.nullable || schema.type.any TypeKeyword.allowsNull

/-- The literals of an enumeration, of which there is at least one. -/
def literals? (schema : Schema) : Option (List Json) :=
  schema.enumeration.filter fun values => !values.isEmpty

def requires (schema : Schema) (name : String) : Bool := schema.required.contains name

def decodeType (value : Json) : Decoded TypeKeyword :=
  let names : Json → Option String
    | .string s => some s
    | _ => none
  match value with
  | .string name => .ok (.single name)
  | .array items => match items.mapM names with
    | some names => .ok (.several names)
    | none => .error (.noVariant "SchemaType")
  | _ => .error (.noVariant "SchemaType")

/-- The fields of a schema, given how the schemas inside of it are decoded. -/
def shape (inner : Json → Decoded Schema) : Shape Schema where
  name := "SchemaNode"
  start := {}
  fields := [
    .defaulted "type" (Decode.optional decodeType) fun v s => { s with type := v },
    .defaulted "format" (Decode.optional Decode.string) fun v s => { s with format := v },
    .defaulted "nullable" Decode.boolean fun v s => { s with nullable := v },
    .defaulted "enum" (Decode.optional (Decode.list .ok)) fun v s => { s with enumeration := v },
    .defaulted "default" (Decode.optional .ok) fun v s => { s with defaultValue := v },
    .defaulted "example" (Decode.optional .ok) fun v s => { s with exampleValue := v },
    .defaulted "description" (Decode.optional Decode.string)
      fun v s => { s with description := v },
    .defaulted "properties" (Decode.map inner) fun v s => { s with properties := v },
    .defaulted "items" (Decode.optional inner) fun v s => { s with items := v },
    .defaulted "required" (Decode.list Decode.string) fun v s => { s with required := v },
    .defaulted "$ref" (Decode.optional Decode.string) fun v s => { s with reference := v }]

/-- `levels` bounds the nesting of the value. -/
def decodeWithin : Nat → Json → Decoded Schema
  | 0, value => (shape fun _ => .ok {}).decode value
  | levels + 1, value => (shape (decodeWithin levels)).decode value

def decode (value : Json) : Decoded Schema := decodeWithin value.depth value

end Schema
end OpenApiGen
