import OpenApiGen.AbsoluteUrl
import OpenApiGen.TextSearch

/-! # References to components, and the names they end in -/

namespace OpenApiGen

/-- The sections of components that references point into. -/
inductive Section
  | schemas | parameters | requestBodies
deriving DecidableEq, Repr

def Section.name : Section → String
  | .schemas => "schemas"
  | .parameters => "parameters"
  | .requestBodies => "requestBodies"

inductive ReferenceClass
  | localPointer | remote | relative
deriving DecidableEq, Repr

def ReferenceClass.name : ReferenceClass → String
  | .localPointer => "Local"
  | .remote => "Remote"
  | .relative => "Relative"

namespace Reference

def classify (reference : String) : ReferenceClass :=
  if reference.toList.head? = some '#' then .localPointer
  else if AbsoluteUrl.accepts reference.toList then .remote
  else .relative

/-- A segment as it was before it was written into a pointer and the pointer into a URL. -/
def decodeSegment (segment : List Char) : List Char :=
  let slashes := Text.replacePair '~' '1' ['/'] segment
  let tildes := Text.replacePair '~' '0' ['~'] slashes
  Utf8.decode (Percent.decode tildes)

/-- The name behind `#/components/` and the section, where it is the last segment and not empty. -/
def componentName? (reference : String) (part : Section) : Option String :=
  match Text.after? ['#', '/'] reference.toList with
  | none => none
  | some pointer => match pointer.splitOn '/' with
    | [components, name, last] =>
      if components = "components".toList ∧ name = part.name.toList then
        let decoded := decodeSegment last
        if decoded.isEmpty then none else some (String.ofList decoded)
      else none
    | _ => none

/-- The last segment, whether or not the reference leads anywhere. -/
def displayName (reference : String) : String :=
  String.ofList (decodeSegment (Text.lastPiece '#' (Text.lastPiece '/' reference.toList)))

end Reference
end OpenApiGen
