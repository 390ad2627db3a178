import OpenApiGen.Diagnostics
import OpenApiGen.Json

/-! # Decoding values into records, with the first mismatch as the error -/

namespace OpenApiGen

/-- What stands in the place of an expected value. -/
inductive Found
  | null
  | boolean (b : Bool)
  | number (n : Number)
  | string (s : String)
  | sequence
  | map
deriving DecidableEq, Repr

def Found.ofJson : Json → Found
  | .null => .null
  | .boolean b => .boolean b
  | .number n => .number n
  | .string s => .string s
  | .array _ => .sequence
  | .object _ => .map

def Found.describe : Found → String
  | .null => "null"
  | .boolean b => "boolean \x60" ++ (if b then "true" else "false") ++ "\x60"
  | .number (.integer n) => "integer \x60" ++ toString n ++ "\x60"
  | .number (.double x) => "floating point \x60" ++ String.ofList x.text ++ "\x60"
  | .string s => "string " ++ Diagnostics.quoted s
  | .sequence => "sequence"
  | .map => "map"

inductive ShapeError
  | invalidType (found : Found) (expected : String)
  | missingField (name : String)
  | tooFewItems (count : Nat) (record : String) (fields : Nat)
  | tooManyItems (count : Nat)
  | unknownVariant (name : String) (variants : List String)
  | notOneKey
  | noVariant (choice : String)
  | operation (verb : String) (reason : ShapeError)
deriving DecidableEq, Repr

def listVariants (names : List String) : String :=
  let quoted := names.map fun n => "\x60" ++ n ++ "\x60"
  match quoted with
  | [a] => a
  | [a, b] => a ++ " or " ++ b
  | names => "one of " ++ ", ".intercalate names

def ShapeError.message : ShapeError → String
  | .invalidType found expected => "invalid type: " ++ found.describe ++ ", expected " ++ expected
  | .missingField name => "missing field \x60" ++ name ++ "\x60"
  | .tooFewItems count record fields =>
    "invalid length " ++ toString count ++ ", expected struct " ++ record ++ " with "
      ++ toString fields ++ " elements"
  | .tooManyItems count =>
    "invalid length " ++ toString count ++ ", expected fewer elements in array"
  | .unknownVariant name variants =>
    "unknown variant \x60" ++ name ++ "\x60, expected " ++ listVariants variants
  | .notOneKey => "invalid value: map, expected map with a single key"
  | .noVariant choice => "data did not match any variant of untagged enum " ++ choice
  | .operation verb reason =>
    "Failed to parse path item operation '" ++ verb ++ "': " ++ reason.message

abbrev Decoded (α : Type) := Except ShapeError α

namespace Decode

variable {α β : Type}

def mismatch (expected : String) (value : Json) : Decoded α :=
  .error (.invalidType (Found.ofJson value) expected)

def string : Json → Decoded String
  | .string s => .ok s
  | value => mismatch "a string" value

def boolean : Json → Decoded Bool
  | .boolean b => .ok b
  | value => mismatch "a boolean" value

def list (decode : Json → Decoded α) : Json → Decoded (List α)
  | .array items => items.mapM decode
  | value => mismatch "a sequence" value

/-- Named values in the order in which they stand. -/
def map (decode : Json → Decoded α) : Json → Decoded (List (String × α))
  | .object entries => entries.mapM fun (key, value) => do return (key, ← decode value)
  | value => mismatch "a map" value

def optional (decode : Json → Decoded α) : Json → Decoded (Option α)
  | .null => .ok none
  | value => (decode value).map some

/-- A name, or an object with this name as its only key and null under it. -/
def choice (variants : List (String × α)) (value : Json) : Decoded α :=
  let named (name : String) : Decoded α :=
    match KeyedList.find? name variants with
    | some a => .ok a
    | none => .error (.unknownVariant name (KeyedList.keys variants))
  match value with
  | .string name => named name
  | .object [(name, inner)] => do
    let a ← named name
    match inner with
    | .null => .ok a
    | inner => mismatch "unit" inner
  | .object _ => .error .notOneKey
  | value => mismatch "string or map" value

end Decode

/-- A field of a record and how its value enters the record. -/
structure Field (σ : Type) where
  name : String
  required : Bool
  read : Json → σ → Decoded σ

namespace Field

variable {σ α : Type}

def needed (name : String) (decode : Json → Decoded α) (set : α → σ → σ) : Field σ :=
  ⟨name, true, fun value s => (decode value).map fun a => set a s⟩

def defaulted (name : String) (decode : Json → Decoded α) (set : α → σ → σ) : Field σ :=
  ⟨name, false, fun value s => (decode value).map fun a => set a s⟩

end Field

/-- A record: its name in messages, its fields in order, and the record to fill in. -/
structure Shape (σ : Type) where
  name : String
  fields : List (Field σ)
  start : σ

namespace Shape

variable {σ : Type}

/-- Values fill the fields of their names in the order in which they stand; unknown names are passed
over. -/
def fill (shape : Shape σ) (entries : List (String × Json)) : Decoded σ :=
  entries.foldlM (fun s (key, value) =>
    match shape.fields.find? (·.name == key) with
    | some field => field.read value s
    | none => .ok s) shape.start

def missing? (shape : Shape σ) (entries : List (String × Json)) : Option String :=
  (shape.fields.find? fun f => f.required && !(KeyedList.keys entries).contains f.name).map
    Field.name

def readItems (shape : Shape σ) (count : Nat) : List (Field σ) → List Json → σ → Decoded σ
  | [], [], s => .ok s
  | [], _ :: _, _ => .error (.tooManyItems count)
  | field :: fields, value :: values, s => do
    readItems shape count fields values (← field.read value s)
  | field :: fields, [], s =>
    if field.required then
      .error (.tooFewItems (shape.fields.length - (fields.length + 1)) shape.name
        shape.fields.length)
    else readItems shape count fields [] s

/-- From an object by name, from an array by position. -/
def decode (shape : Shape σ) : Json → Decoded σ
  | .object entries => do
    let s ← shape.fill entries
    match shape.missing? entries with
    | some name => .error (.missingField name)
    | none => .ok s
  | .array items => shape.readItems items.length shape.fields items shape.start
  | value => Decode.mismatch ("struct " ++ shape.name) value

end Shape
end OpenApiGen
