import OpenApiGen.Reference
import OpenApiGen.Schema

/-! # Type expressions of TypeScript, and the type of a schema -/

namespace OpenApiGen

inductive TypeExpr
  | any
  | string
  | number
  | boolean
  | object
  | date
  | named (name : String)
  | literals (values : List Json)
  | array (item : TypeExpr)
  | nullable (type : TypeExpr)
  | record (fields : List (String × Bool × TypeExpr))
deriving Repr, Inhabited

namespace TypeExpr

def indent (depth : Nat) : String := String.ofList (List.replicate (2 * depth) ' ')

def union (values : List Json) : String := " | ".intercalate (values.map Json.text)

/-- The type of arrays of an item type: a text with a union in it goes into parentheses. -/
def arrayOfText (item : String) : String :=
  if Text.occurs " | ".toList item.toList then "(" ++ item ++ ")[]" else item ++ "[]"

/-- A field is marked where it may be left out. Its name is a key, written as it has to be. -/
def fieldLine (depth : Nat) (key : String) (optional : Bool) (type : String) : String :=
  indent depth ++ key ++ (if optional then "?" else "") ++ ": " ++ type ++ ";\n"

mutual

/-- The text of a type that begins on a line with this indentation. -/
def text (depth : Nat) : TypeExpr → String
  | any => "any"
  | string => "string"
  | number => "number"
  | boolean => "boolean"
  | object => "object"
  | date => "Date"
  | named name => name
  | literals values => union values
  | array item => arrayOfText (text depth item)
  | nullable type => text depth type ++ " | null"
  | record fields => "\x7b\n" ++ fieldsText (depth + 1) fields ++ indent depth ++ "\x7d"

def fieldsText (depth : Nat) : List (String × Bool × TypeExpr) → String
  | [] => ""
  | (key, optional, type) :: fields =>
    fieldLine depth key optional (text depth type) ++ fieldsText depth fields

end

/-- Dates, null or not. -/
def isDate : TypeExpr → Bool
  | date => true
  | nullable type => isDate type
  | _ => false

def isDateFormat (format : Option String) : Bool :=
  format = some "date" || format = some "date-time"

def ofKind (kind : SchemaKind) (format : Option String) : TypeExpr :=
  match kind with
  | .string => if isDateFormat format then date else string
  | .number | .integer => number
  | .boolean => boolean
  | .object => object
  | .array => array any
  | .reference | .unknown => any

def orNull (type : TypeExpr) (null : Bool) : TypeExpr := if null then nullable type else type

end TypeExpr

/-- A reference has the name it ends in, an enumeration the union of its literals, an array the type
of its items; neither enumerations nor arrays take part in being nullable. -/
def Schema.typeExpr (schema : Schema) : TypeExpr :=
  match schema.reference with
  | some reference => (TypeExpr.named (Reference.displayName reference)).orNull schema.isNullable
  | none => match schema.literals? with
    | some values => .literals values
    | none => match schema.kind with
      | .array => match schema with
        | { items := some items, .. } => .array items.typeExpr
        | { items := none, .. } => .array .any
      | kind => (TypeExpr.ofKind kind schema.format).orNull schema.isNullable

end OpenApiGen
