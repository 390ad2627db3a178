import OpenApiGen.DocumentDecoding
import OpenApiGen.Generation
import OpenApiGen.OptionsText

/-! # Files, their paths and formats, and what is read from them -/

namespace OpenApiGen

namespace FilePath

/-- The parts of a path without empty ones and those that stay where they are. -/
def components (path : String) : List String :=
  ((path.toList.splitOn '/').map String.ofList).filter fun c => c != "" && c != "."

def endsInSlash (path : String) : Bool := path.toList.getLast? = some '/'

/-- The last part of a path, unless it leads upwards. -/
def fileName? (path : String) : Option String :=
  (components path).getLast?.filter (· != "..")

/-- What follows the last dot of a name, where something stands before it. -/
def extension? (path : String) : Option String :=
  (fileName? path).bind fun name =>
    match (name.toList.splitOn '.').reverse with
    | last :: before :: more =>
      if more.isEmpty && before.isEmpty then none else some (String.ofList last)
    | _ => none

end FilePath

def DocumentFormat.ofPath (path : String) : Except Failure DocumentFormat :=
  match (FilePath.extension? path).map lowerAscii with
  | some cs =>
    if cs = "json".toList then .ok .json
    else if cs = "yaml".toList ∨ cs = "yml".toList then .ok .yaml
    else .error (.unsupportedFormat path)
  | none => .error (.unsupportedFormat path)

/-- The value that a text stands for. -/
def DocumentFormat.parse? (format : DocumentFormat) (text : String) : Option Json :=
  match format with
  | .json => Json.parse? text
  | .yaml => Yaml.toJson? text

def DocumentFormat.options? (format : DocumentFormat) (text : String) : Option Options :=
  match format with
  | .json => JsonText.options? text
  | .yaml => Yaml.options? text

/-- A directory and the files below it, by the parts of their paths. -/
structure Workspace where
  directory : String
  files : List (List String × List Nat)

namespace Workspace

/-- A path from the root of the file system; an empty one stays empty. -/
def absolute (w : Workspace) (path : String) : String :=
  if path.isEmpty then ""
  else
    "/".intercalate (w.directory :: FilePath.components path)
      ++ (if FilePath.endsInSlash path then "/" else "")

def bytes? (w : Workspace) (place : List String) : Option (List Nat) :=
  (w.files.reverse.find? (·.1 == place)).map Prod.snd

def isDirectory (w : Workspace) (place : List String) : Bool :=
  place.isEmpty || w.files.any fun (p, _) => place.isPrefixOf p && place.length < p.length

/-- The place that the parts of a path lead to. Nothing is known outside of the directory. -/
def locate (w : Workspace) (place : Option (List String)) :
    List String → Except ReadCause (Option (List String))
  | [] => .ok place
  | name :: rest => match place with
    | none => if name = ".." then locate w none rest else .error .notFound
    | some place =>
      if !w.isDirectory place then .error .notDirectory
      else if name = ".." then
        locate w (if place.isEmpty then none else some place.dropLast) rest
      else
        let inner := place ++ [name]
        if w.isDirectory inner || (w.bytes? inner).isSome then locate w (some inner) rest
        else .error .notFound

def read (w : Workspace) (path : String) : Except ReadCause String := do
  if path.isEmpty then throw .notFound
  match ← w.locate (some []) (FilePath.components path) with
  | none => throw .isDirectory
  | some place => match w.bytes? place with
    | none => throw .isDirectory
    | some bytes =>
      if FilePath.endsInSlash path then throw .notDirectory
      else match Utf8.decode? bytes with
        | some text => return text
        | none => throw .notText

/-- The file is read first, then its format is looked at. -/
def readStructured {α : Type} (w : Workspace) (path : String)
    (parse : DocumentFormat → String → Option α) : Attempt α := do
  let full := w.absolute path
  match w.read path with
  | .error cause => throw (.read full cause)
  | .ok text => match DocumentFormat.ofPath full with
    | .error failure => throw failure
    | .ok format =>
      Attempt.report (.fileRead full format)
      match parse format text with
      | some a => return a
      | none => throw (.parse full)

end Workspace

namespace Document

/-- A value becomes a document once its root is right. -/
def load (value : Json) : Attempt Document :=
  match ofJson value with
  | .error failure => throw failure
  | .ok doc => do
    Attempt.report (.documentLoaded doc.info.title doc.info.version doc.paths.length
      doc.components.schemas.length)
    return doc

def memoryPath : String := "<memory>"

def ofText (format : DocumentFormat) (text : String) : Attempt Document :=
  match format.parse? text with
  | none => throw (.parse memoryPath)
  | some value => load value

def ofPath (w : Workspace) (path : String) : Attempt Document := do
  load (← w.readStructured path DocumentFormat.parse?)

end Document

def Options.ofPath (w : Workspace) (path : String) : Attempt Options :=
  w.readStructured path DocumentFormat.options?

def Generation.ofPath (w : Workspace) (path : String) (options : Options) : Attempt Output := do
  run options (← Document.ofPath w path)

end OpenApiGen
