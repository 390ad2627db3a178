import OpenApiGen.Schema

/-! # API descriptions: documents and their parts -/

namespace OpenApiGen

inductive Verb
  | get | put | post | delete | options | head | patch | trace
deriving DecidableEq, Repr

namespace Verb

def name : Verb → String
  | get => "get"
  | put => "put"
  | post => "post"
  | delete => "delete"
  | options => "options"
  | head => "head"
  | patch => "patch"
  | trace => "trace"

def upperName : Verb → String
  | get => "GET"
  | put => "PUT"
  | post => "POST"
  | delete => "DELETE"
  | options => "OPTIONS"
  | head => "HEAD"
  | patch => "PATCH"
  | trace => "TRACE"

def all : List Verb := [get, put, post, delete, options, head, patch, trace]

def ofName? (name : String) : Option Verb := all.find? (·.name == name)

theorem name_injective {v w : Verb} (h : v.name = w.name) : v = w := by
  cases v <;> cases w <;> simp_all [name]

end Verb

inductive Location
  | query | header | path | cookie
deriving DecidableEq, Repr

namespace Location

def name : Location → String
  | query => "query"
  | header => "header"
  | path => "path"
  | cookie => "cookie"

def all : List (String × Location) := [query, header, path, cookie].map fun l => (l.name, l)

end Location

structure Info where
  title : String
  version : String
  description : Option String
deriving DecidableEq, Repr

/-- A component that is named, or written down in place. -/
inductive Referable (α : Type)
  | reference (pointer : String)
  | inline (value : α)
deriving Repr

/-- A parameter as a document declares it. -/
structure ParameterEntry where
  name : String
  location : Location
  required : Option Bool
  schema : Option Schema
  description : Option String
deriving Repr

structure MediaType where
  schema : Option Schema
deriving Repr

/-- A request body as a document declares it. -/
structure BodyEntry where
  description : Option String
  content : List (String × MediaType)
  required : Option Bool
deriving Repr

structure Operation where
  operationId : Option String
  summary : Option String
  parameters : Option (List (Referable ParameterEntry))
  requestBody : Option (Referable BodyEntry)
  security : Option (List (List (String × List String)))
deriving Repr

structure SecurityScheme where
  type : String
  scheme : Option String
  bearerFormat : Option String
deriving DecidableEq, Repr

def lowerAscii (s : String) : List Char := s.toList.map Char.toLower

def SecurityScheme.isBearer (scheme : SecurityScheme) : Bool :=
  lowerAscii scheme.type == "http".toList
    && scheme.scheme.any fun s => lowerAscii s == "bearer".toList

structure Components where
  schemas : List (String × Schema) := []
  parameters : List (String × ParameterEntry) := []
  requestBodies : List (String × BodyEntry) := []
  securitySchemes : List (String × SecurityScheme) := []
deriving Repr

/-- The operations of a path, in the order in which its verbs stand. -/
abbrev PathItem := List (Verb × Operation)

structure Document where
  openapi : String
  info : Info
  paths : List (String × PathItem)
  components : Components
deriving Repr

def Document.schema? (doc : Document) (name : String) : Option Schema :=
  KeyedList.find? name doc.components.schemas

end OpenApiGen
