import OpenApiGen.ShapeDecoding

/-! # What can go wrong, and how it is reported -/

namespace OpenApiGen

/-- Why a file cannot be read. -/
inductive ReadCause
  | notFound | isDirectory | notDirectory | notText
deriving DecidableEq, Repr

def ReadCause.message : ReadCause → String
  | .notFound => "No such file or directory (os error 2)"
  | .isDirectory => "Is a directory (os error 21)"
  | .notDirectory => "Not a directory (os error 20)"
  | .notText => "stream did not contain valid UTF-8"

/-- What is wrong with a field of a document. -/
inductive Defect
  | notKeyed
  | missing
  | notObject
  | notString
  | unsupportedVersion (version : String)
  | unexpectedShape (reason : ShapeError)
  | emptyEntityName
deriving DecidableEq, Repr

def Defect.message : Defect → String
  | .notKeyed => "is not a key-value object"
  | .missing => "is missing"
  | .notObject => "must be an object"
  | .notString => "must be a string"
  | .unsupportedVersion version => "must be a 3.x version, found '" ++ version ++ "'"
  | .unexpectedShape reason => "has an unexpected shape: " ++ reason.message
  | .emptyEntityName => "strips to an empty entity name"

inductive Failure
  | read (path : String) (cause : ReadCause)
  | parse (path : String)
  | unsupportedFormat (path : String)
  | invalid (field : String) (defect : Defect)
  | unresolvedReference (reference context : String)
  | namingCollision (name first second : String)
deriving DecidableEq, Repr

namespace Failure

/-- The text of the cause of a parse failure is not part of the message. -/
def message : Failure → String
  | read path cause => "Failed to read '" ++ path ++ "': " ++ cause.message
  | parse path => "Failed to parse '" ++ path ++ "'"
  | unsupportedFormat path =>
    "Unsupported file extension for '" ++ path ++ "'. Use .json, .yaml or .yml"
  | invalid field defect => "Invalid OpenAPI document: '" ++ field ++ "' " ++ defect.message
  | unresolvedReference reference context =>
    "Unresolved reference '" ++ reference ++ "' in " ++ context
  | namingCollision name first second =>
    "Naming collision on '" ++ name ++ "' between " ++ first ++ " and " ++ second

def field? : Failure → Option String
  | invalid field _ => some field
  | _ => none

def hasCause : Failure → Bool
  | read .. | parse _ => true
  | _ => false

end Failure
end OpenApiGen
