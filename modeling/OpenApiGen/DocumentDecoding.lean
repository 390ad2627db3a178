import OpenApiGen.Document
import OpenApiGen.Failure

/-! # From values to documents: the contract of the root, then the sections -/

namespace OpenApiGen

namespace Info

def shape : Shape Info where
  name := "Info"
  start := ⟨"", "", none⟩
  fields := [
    .needed "title" Decode.string fun v s => { s with title := v },
    .needed "version" Decode.string fun v s => { s with version := v },
    .defaulted "description" (Decode.optional Decode.string)
      fun v s => { s with description := v }]

end Info

/-- An object with a text under `$ref` is a reference, whatever else it holds. -/
def Referable.decode {α : Type} (inner : Json → Decoded α) (value : Json) :
    Decoded (Referable α) :=
  let inline : Decoded (Referable α) := match inner value with
    | .ok a => .ok (.inline a)
    | .error _ => .error (.noVariant "RefOr")
  match value with
  | .object entries => match KeyedList.find? "$ref" entries with
    | some (.string pointer) => .ok (.reference pointer)
    | _ => inline
  | _ => inline

namespace ParameterEntry

def shape : Shape ParameterEntry where
  name := "ParameterObject"
  start := ⟨"", .query, none, none, none⟩
  fields := [
    .needed "name" Decode.string fun v s => { s with name := v },
    .needed "in" (Decode.choice Location.all) fun v s => { s with location := v },
    .defaulted "required" (Decode.optional Decode.boolean) fun v s => { s with required := v },
    .defaulted "schema" (Decode.optional Schema.decode) fun v s => { s with schema := v },
    .defaulted "description" (Decode.optional Decode.string)
      fun v s => { s with description := v }]

end ParameterEntry

namespace MediaType

def shape : Shape MediaType where
  name := "MediaType"
  start := ⟨none⟩
  fields := [.defaulted "schema" (Decode.optional Schema.decode) fun v _ => ⟨v⟩]

end MediaType

namespace BodyEntry

def shape : Shape BodyEntry where
  name := "RequestBodyObject"
  start := ⟨none, [], none⟩
  fields := [
    .defaulted "description" (Decode.optional Decode.string)
      fun v s => { s with description := v },
    .defaulted "content" (Decode.map MediaType.shape.decode) fun v s => { s with content := v },
    .defaulted "required" (Decode.optional Decode.boolean) fun v s => { s with required := v }]

end BodyEntry

namespace Operation

def shape : Shape Operation where
  name := "Operation"
  start := ⟨none, none, none, none, none⟩
  fields := [
    .defaulted "operationId" (Decode.optional Decode.string)
      fun v s => { s with operationId := v },
    .defaulted "summary" (Decode.optional Decode.string) fun v s => { s with summary := v },
    .defaulted "parameters"
      (Decode.optional (Decode.list (Referable.decode ParameterEntry.shape.decode)))
      fun v s => { s with parameters := v },
    .defaulted "requestBody" (Decode.optional (Referable.decode BodyEntry.shape.decode))
      fun v s => { s with requestBody := v },
    .defaulted "security"
      (Decode.optional (Decode.list (Decode.map (Decode.list Decode.string))))
      fun v s => { s with security := v }]

end Operation

namespace PathItem

/-- Keys other than verbs are not looked at. -/
def ofEntries : List (String × Json) → Decoded PathItem
  | [] => .ok []
  | (key, value) :: entries => match Verb.ofName? key with
    | none => ofEntries entries
    | some verb => match Operation.shape.decode value with
      | .error reason => .error (.operation key reason)
      | .ok operation => do return (verb, operation) :: (← ofEntries entries)

def decode : Json → Decoded PathItem
  | .object entries => ofEntries entries
  | value => Decode.mismatch "a map" value

end PathItem

namespace SecurityScheme

def shape : Shape SecurityScheme where
  name := "SecurityScheme"
  start := ⟨"", none, none⟩
  fields := [
    .needed "type" Decode.string fun v s => { s with type := v },
    .defaulted "scheme" (Decode.optional Decode.string) fun v s => { s with scheme := v },
    .defaulted "bearerFormat" (Decode.optional Decode.string)
      fun v s => { s with bearerFormat := v }]

end SecurityScheme

namespace Components

def shape : Shape Components where
  name := "Components"
  start := {}
  fields := [
    .defaulted "schemas" (Decode.map Schema.decode) fun v s => { s with schemas := v },
    .defaulted "parameters" (Decode.map ParameterEntry.shape.decode)
      fun v s => { s with parameters := v },
    .defaulted "requestBodies" (Decode.map BodyEntry.shape.decode)
      fun v s => { s with requestBodies := v },
    .defaulted "securitySchemes" (Decode.map SecurityScheme.shape.decode)
      fun v s => { s with securitySchemes := v }]

end Components

namespace Document

def require (field : String) (entry : Option Json) : Except Failure Json :=
  match entry with
  | some value => .ok value
  | none => .error (.invalid field .missing)

def requireString (field : String) (entry : Option Json) : Except Failure String := do
  match ← require field entry with
  | .string s => .ok s
  | _ => .error (.invalid field .notString)

def requireObject (field : String) (entry : Option Json) :
    Except Failure (List (String × Json)) := do
  match ← require field entry with
  | .object entries => .ok entries
  | _ => .error (.invalid field .notObject)

/-- The root is an object with a version 3, a title, the version of the API, and paths. -/
def validate : Json → Except Failure Unit
  | .object root => do
    let version ← requireString "openapi" (KeyedList.find? "openapi" root)
    if !("3.".toList.isPrefixOf version.toList) then
      throw (.invalid "openapi" (.unsupportedVersion version))
    let info ← requireObject "info" (KeyedList.find? "info" root)
    let _ ← requireString "info.title" (KeyedList.find? "title" info)
    let _ ← requireString "info.version" (KeyedList.find? "version" info)
    let _ ← requireObject "paths" (KeyedList.find? "paths" root)
  | _ => .error (.invalid "document" .notKeyed)

/-- A section that is not there is decoded like null. -/
def section? {α : Type} (root : List (String × Json)) (key : String)
    (decode : Json → Decoded α) : Except Failure α :=
  match decode ((KeyedList.find? key root).getD .null) with
  | .ok a => .ok a
  | .error reason => .error (.invalid key (.unexpectedShape reason))

def ofRoot (root : List (String × Json)) : Except Failure Document := do
  let openapi ← section? root "openapi" Decode.string
  let info ← section? root "info" Info.shape.decode
  let paths ← section? root "paths" (Decode.optional (Decode.map PathItem.decode))
  let components ← section? root "components" (Decode.optional Components.shape.decode)
  return ⟨openapi, info, paths.getD [], components.getD {}⟩

def ofJson (value : Json) : Except Failure Document := do
  validate value
  match value with
  | .object root => ofRoot root
  | _ => .error (.invalid "document" .notKeyed)

end Document
end OpenApiGen
