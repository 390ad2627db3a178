import OpenApiGen.Handler
import OpenApiGen.SourceText

/-! # Request schemas: what a handler accepts, checked when a request comes in -/

namespace OpenApiGen

/-- A schema of the zod library. -/
inductive ZodSchema
  | any
  | string
  | number
  | integer
  | boolean
  | coercedNumber
  | coercedInteger
  | coercedBoolean
  | coercedDate
  | stringEnum (values : List Json)
  | literal (value : Json)
  | union (values : List Json)
  | array (item : ZodSchema)
  | object (fields : List (String × ZodSchema))
  | optional (schema : ZodSchema)
  | nullable (schema : ZodSchema)
deriving Repr, Inhabited

namespace ZodSchema

def literalText (value : Json) : String := "z.literal(" ++ value.text ++ ")"

def fieldLine (depth : Nat) (key schema : String) : String :=
  TypeExpr.indent depth ++ key ++ ": " ++ schema ++ ",\n"

mutual

/-- The text of a schema that begins on a line with this indentation. -/
def text (depth : Nat) : ZodSchema → String
  | any => "z.any()"
  | string => "z.string()"
  | number => "z.number()"
  | integer => "z.number().int()"
  | boolean => "z.boolean()"
  | coercedNumber => "z.coerce.number()"
  | coercedInteger => "z.coerce.number().int()"
  | coercedBoolean => "z.coerce.boolean()"
  | coercedDate => "z.coerce.date()"
  | stringEnum values => "z.enum([" ++ ", ".intercalate (values.map Json.text) ++ "])"
  | literal value => literalText value
  | union values => "z.union([" ++ ", ".intercalate (values.map literalText) ++ "])"
  | array item => "z.array(" ++ text depth item ++ ")"
  | object [] => "z.object(\x7b\x7d)"
  | object ((key, schema) :: fields) =>
    "z.object(\x7b\n" ++ fieldLine (depth + 1) key (text (depth + 1) schema)
      ++ fieldsText (depth + 1) fields ++ TypeExpr.indent depth ++ "\x7d)"
  | optional schema => text depth schema ++ ".optional()"
  | nullable schema => text depth schema ++ ".nullable()"

def fieldsText (depth : Nat) : List (String × ZodSchema) → String
  | [] => ""
  | (key, schema) :: fields => fieldLine depth key (text depth schema) ++ fieldsText depth fields

end

/-- Texts make an enumeration, other values literals. -/
def ofLiterals (values : List Json) : ZodSchema :=
  if values.all Json.isString then .stringEnum values
  else match values with
    | [value] => .literal value
    | values => .union values

def orOptional (schema : ZodSchema) (required : Bool) : ZodSchema :=
  if required then schema else .optional schema

def orNull (schema : ZodSchema) (null : Bool) : ZodSchema :=
  if null then .nullable schema else schema

/-- A scalar that comes in as a text. -/
def ofTextScalar (kind : SchemaKind) (literals : List Json) : ZodSchema :=
  if !literals.isEmpty then ofLiterals literals
  else match kind with
    | .number => .coercedNumber
    | .integer => .coercedInteger
    | .boolean => .coercedBoolean
    | _ => .string

def ofParameter (p : Parameter) : ZodSchema :=
  match p.kind with
  | .array => .array (ofTextScalar (p.itemKind.getD .string) p.literals)
  | kind => ofTextScalar kind p.literals

def ofParameters (parameters : List Parameter) : ZodSchema :=
  .object (parameters.map fun p =>
    (Naming.propertyKey p.name, (ofParameter p).orOptional p.required))

def ofLeaf (type : TypeExpr) (kind : SchemaKind) (literals : List Json) : ZodSchema :=
  if !literals.isEmpty then ofLiterals literals
  else match kind with
    | .string => if type.isDate then .coercedDate else .string
    | .number => .number
    | .integer => .integer
    | .boolean => .boolean
    | _ => .any

mutual

/-- Bodies are values of JSON, so that numbers are numbers; dates come in as texts. -/
def ofBody : RequestBody → ZodSchema
  | .leaf type kind literals null _ => (ofLeaf type kind literals).orNull null
  | .cut _ null _ => any.orNull null
  | .object _ required properties => .object (ofProperties required properties)
  | .array item => .array (ofBody item)

def ofProperties (required : List String) : List (String × RequestBody) → List (String × ZodSchema)
  | [] => []
  | (name, body) :: rest =>
    (Naming.propertyKey name, (ofBody body).orOptional (required.contains name))
      :: ofProperties required rest

end

end ZodSchema

/-- A part of a request: its key in the schema, its name in the type of the request, its schema. -/
structure SchemaPart where
  key : String
  generic : String
  schema : ZodSchema
deriving Repr

structure RequestSchema where
  constant : String
  type : String
  parts : List SchemaPart
deriving Repr

namespace RequestSchema

def parametersPart (handler : Handler) (location : Location) (key generic : String) :
    List SchemaPart :=
  let parameters := handler.method.parametersIn location
  if parameters.isEmpty then [] else [⟨key, generic, .ofParameters parameters⟩]

def ofHandler (handler : Handler) : RequestSchema :=
  { constant := handler.schemaConst
    type := handler.schemaType
    parts := parametersPart handler .path "params" "Params"
      ++ parametersPart handler .query "querystring" "Querystring"
      ++ handler.method.body.toList.map fun body => ⟨"body", "Body", .ofBody body⟩ }

def partText (part : SchemaPart) : String :=
  "    " ++ part.key ++ ": " ++ part.schema.text 2 ++ ",\n"

def genericText (constant : String) (part : SchemaPart) : String :=
  "  " ++ part.generic ++ ": z.infer<typeof " ++ constant ++ ".schema." ++ part.key ++ ">;\n"

def text (schema : RequestSchema) : String :=
  "export const " ++ schema.constant ++ " = \x7b\n"
    ++ (if schema.parts.isEmpty then "  schema: \x7b\x7d,\n"
        else "  schema: \x7b\n" ++ String.join (schema.parts.map partText) ++ "  \x7d,\n")
    ++ "\x7d;\n"
    ++ (if schema.parts.isEmpty then "export type " ++ schema.type ++ " = \x7b\x7d;\n"
        else "export type " ++ schema.type ++ " = \x7b\n"
          ++ String.join (schema.parts.map (genericText schema.constant)) ++ "\x7d;\n")

end RequestSchema

structure ModuleSchemas where
  schemas : List RequestSchema
deriving Repr

namespace ModuleSchemas

def ofHandlers (handlers : List Handler) : ModuleSchemas := ⟨handlers.map RequestSchema.ofHandler⟩

def imports : List Import := [⟨false, .default "z", "zod"⟩]

def text (file : ModuleSchemas) : String :=
  Import.allText imports ++ String.join (file.schemas.map fun s => "\n" ++ s.text)

end ModuleSchemas
end OpenApiGen
