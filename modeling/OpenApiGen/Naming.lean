import OpenApiGen.CamelCase
import OpenApiGen.Json
import OpenApiGen.Route

/-! # Names in generated code -/

namespace OpenApiGen.Naming

def capitalizeChars : List Char → List Char
  | [] => []
  | c :: rest => Unicode.upperChar c ++ rest

def capitalize (text : String) : String := String.ofList (capitalizeChars text.toList)

/-- The pieces of ASCII letters and digits, each with a capital. -/
def routeChars (cs : List Char) : List Char :=
  (cs.splitOnP (!Char.isAlphanum ·)).flatMap capitalizeChars

def routeName (route : String) : String := String.ofList (routeChars route.toList)

def handlerName (verb route : String) : String := Unicode.lowercase verb ++ routeName route

/-- A name cannot start with a digit or be empty. -/
def guardStart : List Char → List Char
  | [] => ['_']
  | c :: rest => if c.isDigit then '_' :: c :: rest else c :: rest

def moduleIdentifier (module : String) : String :=
  String.ofList (guardStart (CamelCase.lowerCamel module.toList))

def isNameStart (c : Char) : Bool := c.isAlpha || c == '_' || c == '$'

def isNameChar (c : Char) : Bool := c.isAlphanum || c == '_' || c == '$'

def isIdentifierChars : List Char → Bool
  | [] => false
  | c :: rest => isNameStart c && rest.all isNameChar

def isIdentifier (name : String) : Bool := isIdentifierChars name.toList

/-- A legal name is kept, any other one is made up of its pieces. -/
def typeIdentifier (name : String) : String :=
  if isIdentifier name then name else String.ofList (guardStart (routeChars name.toList))

/-- A legal name stands bare, any other one in quotes. -/
def propertyKey (name : String) : String :=
  if isIdentifier name then name else Json.quote name

/-- What is left of a route behind its module, where a segment ends there. -/
def relativeRoute (module route : String) : String :=
  let start := (routeTemplate module).toList
  match Text.after? start (Text.dropLeading '/' route.toList) with
  | some [] => "/"
  | some ('/' :: rest) => String.ofList ('/' :: rest)
  | _ => route

end OpenApiGen.Naming
