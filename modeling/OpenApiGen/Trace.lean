import OpenApiGen.Failure
import OpenApiGen.Reference

/-! # Events of a run, and computations that report them -/

namespace OpenApiGen

inductive DocumentFormat
  | json | yaml
deriving DecidableEq, Repr

def DocumentFormat.name : DocumentFormat → String
  | .json => "Json"
  | .yaml => "Yaml"

inductive Level
  | debug | info | warn
deriving DecidableEq, Repr

def Level.name : Level → String
  | .debug => "DEBUG"
  | .info => "INFO"
  | .warn => "WARN"

inductive Event
  | fileRead (path : String) (format : DocumentFormat)
  | documentLoaded (title version : String) (paths schemas : Nat)
  | pathSkipped (path : String)
  | modulesDiscovered (modules : List String)
  | methodExtracted (operation : String) (parameters : Nat) (hasBody requiresAuth : Bool)
  | bodySkipped (reference : String) (kind : ReferenceClass)
  | bodyReferenceForeign (reference : String) (kind : ReferenceClass)
  | bodySchemaMissing (reference : String)
  | bodyCycleUntyped (schema : String)
  | bodyCycleCut (schema : String)
  | bodyTruncated (depth : Nat)
  | entityReferenceUntyped (reference property : String)
  | entitiesExtracted (count : Nat)
  | fileEmitted (path : String) (bytes : Nat)
  | itemSkipped (item : String) (failure : Failure)
  | generationFinished (files failures : Nat)
deriving DecidableEq, Repr

namespace Event

def level : Event → Level
  | fileRead .. | documentLoaded .. | modulesDiscovered _ | methodExtracted .. | bodyCycleCut _
  | entitiesExtracted _ | fileEmitted .. => .debug
  | generationFinished .. => .info
  | pathSkipped _ | bodySkipped .. | bodyReferenceForeign .. | bodySchemaMissing _
  | bodyCycleUntyped _ | bodyTruncated _ | entityReferenceUntyped .. | itemSkipped .. => .warn

def message : Event → String
  | fileRead .. => "read structured file"
  | documentLoaded .. => "loaded OpenAPI document"
  | pathSkipped _ => "path has no module segment; skipping"
  | modulesDiscovered _ => "discovered modules"
  | methodExtracted .. => "extracted method"
  | bodySkipped .. => "request body reference does not resolve; skipping body"
  | bodyReferenceForeign .. => "unresolved request body reference"
  | bodySchemaMissing _ => "request body reference names a missing schema"
  | bodyCycleUntyped _ => "recursive non-object request body schema typed as 'any'"
  | bodyCycleCut _ => "recursive request body reference cut at re-entry"
  | bodyTruncated _ => "request body nesting exceeds limit; truncating"
  | entityReferenceUntyped .. => "unresolved entity reference typed as 'any'"
  | entitiesExtracted _ => "extracted entities"
  | fileEmitted .. => "emitted file"
  | itemSkipped .. => "skipping item"
  | generationFinished .. => "generation finished"

def flag (b : Bool) : String := if b then "true" else "false"

def fields : Event → List (String × String)
  | fileRead path format => [("path", path), ("format", format.name)]
  | documentLoaded title version paths schemas =>
    [("title", title), ("version", version), ("paths", toString paths),
      ("schemas", toString schemas)]
  | pathSkipped path => [("path", path)]
  | modulesDiscovered modules => [("modules", Diagnostics.quotedList modules)]
  | methodExtracted operation parameters hasBody requiresAuth =>
    [("operation", operation), ("parameters", toString parameters), ("has_body", flag hasBody),
      ("requires_auth", flag requiresAuth)]
  | bodySkipped reference kind | bodyReferenceForeign reference kind =>
    [("reference", reference), ("kind", kind.name)]
  | bodySchemaMissing reference => [("reference", reference)]
  | bodyCycleUntyped schema | bodyCycleCut schema => [("schema", schema)]
  | bodyTruncated depth => [("depth", toString depth)]
  | entityReferenceUntyped reference property =>
    [("reference", reference), ("property", property)]
  | entitiesExtracted count => [("count", toString count)]
  | fileEmitted path bytes => [("path", path), ("bytes", toString bytes)]
  | itemSkipped item failure => [("item", item), ("error", failure.message)]
  | generationFinished files failures =>
    [("files", toString files), ("failures", toString failures)]

end Event

/-- A value and the events that were reported on the way to it. -/
structure Traced (α : Type) where
  value : α
  events : List Event

namespace Traced

instance : Monad Traced where
  pure a := ⟨a, []⟩
  bind x f := ⟨(f x.value).value, x.events ++ (f x.value).events⟩

instance : LawfulMonad Traced := LawfulMonad.mk' Traced
  (by intro α x; simp [Functor.map])
  (by intro α β a f; simp [pure, bind])
  (by intro α β γ x f g; simp [bind, List.append_assoc])

def report (event : Event) : Traced Unit := ⟨(), [event]⟩

end Traced

/-- A computation that may fail; what it reported before stays. -/
abbrev Attempt := ExceptT Failure Traced

def Attempt.report (event : Event) : Attempt Unit := ExceptT.lift (Traced.report event)

end OpenApiGen
