/-! # Imports and default exports of generated files -/

namespace OpenApiGen

/-- What an import binds: a default export, one name under a local one, names on one line, or names
on a line each. -/
inductive ImportClause
  | default (name : String)
  | renamed (name localName : String)
  | names (names : List String)
  | block (names : List String)
deriving DecidableEq, Repr

structure Import where
  typeOnly : Bool
  clause : ImportClause
  source : String
deriving DecidableEq, Repr

/-- A name on a line of its own inside of braces. -/
def listedName (name : String) : String := "  " ++ name ++ ",\n"

namespace ImportClause

def text : ImportClause → String
  | default name => name
  | renamed name localName => "\x7b " ++ name ++ " as " ++ localName ++ " \x7d"
  | names ns => "\x7b " ++ ", ".intercalate ns ++ " \x7d"
  | block ns => "\x7b\n" ++ String.join (ns.map listedName) ++ "\x7d"

def localNames : ImportClause → List String
  | default name => [name]
  | renamed _ localName => [localName]
  | names ns => ns
  | block ns => ns

end ImportClause

namespace Import

def keyword (typeOnly : Bool) : String := if typeOnly then "import type " else "import "

def text (i : Import) : String :=
  keyword i.typeOnly ++ i.clause.text ++ " from \"" ++ i.source ++ "\";\n"

def allText (imports : List Import) : String := String.join (imports.map text)

def localNames (imports : List Import) : List String :=
  imports.flatMap fun i => i.clause.localNames

end Import

def defaultExport (names : List String) : String :=
  "\nexport default \x7b\n" ++ String.join (names.map listedName) ++ "\x7d;\n"

/-- Where the schemas of a module are. -/
def schemaSource (module : String) : String :=
  "@" ++ module ++ "/schemas/" ++ module ++ ".schema.js"

def controllerSource (module : String) : String :=
  "@" ++ module ++ "/controllers/" ++ module ++ ".controller.js"

def serviceSource (module : String) : String :=
  "@" ++ module ++ "/services/" ++ module ++ ".service.js"

end OpenApiGen
