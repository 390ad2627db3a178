import OpenApiGen.Entity
import OpenApiGen.Route

/-! # Options of a run -/

namespace OpenApiGen

inductive ExportForm
  | named | default
deriving DecidableEq, Repr

def ExportForm.name : ExportForm → String
  | .named => "named"
  | .default => "default"

def ExportForm.all : List (String × ExportForm) := [("named", .named), ("default", .default)]

def ReferencePolicy.name : ReferencePolicy → String
  | .error => "error"
  | .untyped => "untyped"

def ReferencePolicy.all : List (String × ReferencePolicy) :=
  [("error", .error), ("untyped", .untyped)]

structure EntityOptions where
  useClasses : Bool := true
  includeValidation : Bool := false
  includeTypeOrm : Bool := false
  exportForm : ExportForm := .named
deriving DecidableEq, Repr

/-- The families of files that a run emits. -/
structure Artifacts where
  routes : Bool := true
  controllers : Bool := true
  services : Bool := true
  schemas : Bool := true
  entities : Bool := true
deriving DecidableEq, Repr

structure Options where
  entities : EntityOptions := {}
  artifacts : Artifacts := {}
  unresolvedEntityReferences : ReferencePolicy := .error
  bearerScheme : String := Document.defaultBearerScheme
  fileExtension : String := "ts"
deriving DecidableEq, Repr

def Artifacts.hasModuleFiles (a : Artifacts) : Bool :=
  a.routes || a.controllers || a.services || a.schemas

namespace Options

def fileName (options : Options) (stem : String) : String :=
  if options.fileExtension.isEmpty then stem else stem ++ "." ++ options.fileExtension

end Options

def EntityOptions.shape : Shape EntityOptions where
  name := "EntityOptions"
  start := {}
  fields := [
    .defaulted "useClasses" Decode.boolean fun v s => { s with useClasses := v },
    .defaulted "includeValidation" Decode.boolean fun v s => { s with includeValidation := v },
    .defaulted "includeTypeOrm" Decode.boolean fun v s => { s with includeTypeOrm := v },
    .defaulted "exportType" (Decode.choice ExportForm.all) fun v s => { s with exportForm := v }]

def Artifacts.shape : Shape Artifacts where
  name := "Artifacts"
  start := {}
  fields := [
    .defaulted "routes" Decode.boolean fun v s => { s with routes := v },
    .defaulted "controllers" Decode.boolean fun v s => { s with controllers := v },
    .defaulted "services" Decode.boolean fun v s => { s with services := v },
    .defaulted "schemas" Decode.boolean fun v s => { s with schemas := v },
    .defaulted "entities" Decode.boolean fun v s => { s with entities := v }]

def Options.shape : Shape Options where
  name := "GeneratorOptions"
  start := {}
  fields := [
    .defaulted "entities" EntityOptions.shape.decode fun v s => { s with entities := v },
    .defaulted "artifacts" Artifacts.shape.decode fun v s => { s with artifacts := v },
    .defaulted "unresolvedEntityRefs" (Decode.choice ReferencePolicy.all)
      fun v s => { s with unresolvedEntityReferences := v },
    .defaulted "bearerScheme" Decode.string fun v s => { s with bearerScheme := v },
    .defaulted "fileExtension" Decode.string fun v s => { s with fileExtension := v }]

end OpenApiGen
