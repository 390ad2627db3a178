import OpenApiGen.AbsoluteUrl
import OpenApiGen.Binary64
import OpenApiGen.CamelCase
import OpenApiGen.Diagnostics
import OpenApiGen.Document
import OpenApiGen.DocumentDecoding
import OpenApiGen.Entity
import OpenApiGen.EntityFile
import OpenApiGen.Failure
import OpenApiGen.Generation
import OpenApiGen.Handler
import OpenApiGen.Json
import OpenApiGen.JsonReading
import OpenApiGen.KeyedList
import OpenApiGen.ModuleController
import OpenApiGen.ModuleRouter
import OpenApiGen.ModuleService
import OpenApiGen.Naming
import OpenApiGen.Options
import OpenApiGen.OptionsText
import OpenApiGen.Parameter
import OpenApiGen.Percent
import OpenApiGen.Proofs.Aggregates
import OpenApiGen.Proofs.ArrayProperties
import OpenApiGen.Proofs.ArrayTexts
import OpenApiGen.Proofs.BodyAgreement
import OpenApiGen.Proofs.BodyFlattening
import OpenApiGen.Proofs.BodyOutlines
import OpenApiGen.Proofs.BodyParts
import OpenApiGen.Proofs.BodyTypes
import OpenApiGen.Proofs.DeclarationHistory
import OpenApiGen.Proofs.DeclarationOrder
import OpenApiGen.Proofs.DeclaredNames
import OpenApiGen.Proofs.DecoratorImports
import OpenApiGen.Proofs.DistinctKeys
import OpenApiGen.Proofs.DocComments
import OpenApiGen.Proofs.DocumentErrors
import OpenApiGen.Proofs.EmittedFiles
import OpenApiGen.Proofs.EntityBindings
import OpenApiGen.Proofs.EntityImports
import OpenApiGen.Proofs.EntityLookups
import OpenApiGen.Proofs.EntityProperties
import OpenApiGen.Proofs.EntityReferences
import OpenApiGen.Proofs.ExtractedBodies
import OpenApiGen.Proofs.ExtractedItems
import OpenApiGen.Proofs.FailureLocality
import OpenApiGen.Proofs.FlattenedTrees
import OpenApiGen.Proofs.FlatteningOutcomes
import OpenApiGen.Proofs.GuardedRoutes
import OpenApiGen.Proofs.HandlerCollisions
import OpenApiGen.Proofs.HandlerNames
import OpenApiGen.Proofs.InferredTypes
import OpenApiGen.Proofs.InlineObjects
import OpenApiGen.Proofs.ItemOutcomes
import OpenApiGen.Proofs.LostReferences
import OpenApiGen.Proofs.ModuleBindings
import OpenApiGen.Proofs.ModuleFiles
import OpenApiGen.Proofs.ModuleIndependence
import OpenApiGen.Proofs.ModulePartition
import OpenApiGen.Proofs.NameLetters
import OpenApiGen.Proofs.NameStack
import OpenApiGen.Proofs.Occurrences
import OpenApiGen.Proofs.OutputPaths
import OpenApiGen.Proofs.Passes
import OpenApiGen.Proofs.PathCollisions
import OpenApiGen.Proofs.PathFamilies
import OpenApiGen.Proofs.PathMarks
import OpenApiGen.Proofs.PathSegments
import OpenApiGen.Proofs.PlainBodies
import OpenApiGen.Proofs.PointerSpellings
import OpenApiGen.Proofs.PropertyKeys
import OpenApiGen.Proofs.PropertyPlaces
import OpenApiGen.Proofs.QuotedTexts
import OpenApiGen.Proofs.RecordedNames
import OpenApiGen.Proofs.ReferencePolicies
import OpenApiGen.Proofs.RegisteredUrls
import OpenApiGen.Proofs.RespelledDocuments
import OpenApiGen.Proofs.RootContract
import OpenApiGen.Proofs.RunEvents
import OpenApiGen.Proofs.Runs
import OpenApiGen.Proofs.SchemaProjections
import OpenApiGen.Proofs.SchemaWalks
import OpenApiGen.Proofs.SegmentDecoding
import OpenApiGen.Proofs.ServedUrls
import OpenApiGen.Proofs.ServiceDeclarations
import OpenApiGen.Proofs.ServiceTypes
import OpenApiGen.Proofs.Settlements
import OpenApiGen.Proofs.SourceStatements
import OpenApiGen.Proofs.SpelledReferences
import OpenApiGen.Proofs.StringLiterals
import OpenApiGen.Proofs.TextMarks
import OpenApiGen.Proofs.TypeScopes
import OpenApiGen.Proofs.TypeSpellings
import OpenApiGen.Proofs.TypeTexts
import OpenApiGen.Proofs.Utf8Bytes
import OpenApiGen.Reference
import OpenApiGen.RequestBody
import OpenApiGen.RequestSchema
import OpenApiGen.Route
import OpenApiGen.Schema
import OpenApiGen.ShapeDecoding
import OpenApiGen.SourceText
import OpenApiGen.TextSearch
import OpenApiGen.Trace
import OpenApiGen.TypeExpr
import OpenApiGen.UnicodeCase
import OpenApiGen.UnicodeLetters
import OpenApiGen.Utf8
import OpenApiGen.Workspace
import OpenApiGen.YamlCursor
import OpenApiGen.YamlNode
import OpenApiGen.YamlReading
import OpenApiGen.YamlResolution
import OpenApiGen.YamlScalars
