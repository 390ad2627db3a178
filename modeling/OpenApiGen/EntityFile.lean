import OpenApiGen.Naming
import OpenApiGen.Options
import OpenApiGen.SourceText

/-! # Entity files: one class or interface per entity, and the index of all of them -/

namespace OpenApiGen

structure Decorator where
  name : String
  arguments : List String
deriving DecidableEq, Repr

def Decorator.text (d : Decorator) : String :=
  "@" ++ d.name ++ "(" ++ ", ".intercalate d.arguments ++ ")"

namespace EntityProperty

def primaryKey : String := "id"

def literalList (values : List Json) : String :=
  "[" ++ ", ".intercalate (values.map Json.text) ++ "]"

def valueOptions (p : EntityProperty) : List String :=
  (if p.nullable then ["nullable: true"] else [])
    ++ (p.defaultValue.toList.map fun value => "default: " ++ value.text)

def typeOptions (p : EntityProperty) : List String :=
  if !p.literals.isEmpty then
    ["type: \"enum\"", "enum: " ++ literalList p.literals]
      ++ (if p.isArray then ["array: true"] else [])
  else if p.isArray || p.isObject || p.baseKind == .reference then ["type: \"json\""]
  else match p.format with
    | some "date-time" => ["type: \"timestamp\""]
    | some "date" => ["type: \"date\""]
    | _ => []

/-- How the property is stored. -/
def column (p : EntityProperty) : Decorator :=
  if p.name = primaryKey then ⟨"PrimaryGeneratedColumn", []⟩
  else
    let options := p.valueOptions ++ p.typeOptions
    ⟨"Column", if options.isEmpty then [] else ["\x7b " ++ ", ".intercalate options ++ " \x7d"]⟩

/-- Arrays check each of their elements. -/
def forEach (p : EntityProperty) (name : String) (arguments : List String) : Decorator :=
  ⟨name, arguments ++ (if p.isArray then ["\x7b each: true \x7d"] else [])⟩

def kindValidation (p : EntityProperty) : List Decorator :=
  match p.baseKind with
  | .string =>
    p.forEach "IsString" [] :: match p.format with
      | some "email" => [p.forEach "IsEmail" ["\x7b\x7d"]]
      | some "date" | some "date-time" => [p.forEach "IsDate" []]
      | _ => []
  | .number | .integer => [p.forEach "IsNumber" ["\x7b\x7d"]]
  | .boolean => [p.forEach "IsBoolean" []]
  | _ => []

/-- How the property is checked. -/
def validation (p : EntityProperty) : List Decorator :=
  ⟨if p.required then "IsNotEmpty" else "IsOptional", []⟩ :: p.kindValidation
    ++ (if p.isArray then [⟨"IsArray", []⟩] else [])
    ++ (if p.literals.isEmpty then [] else [p.forEach "IsEnum" [literalList p.literals]])

mutual

/-- The type under which the property is declared: objects written down in place are spelled
out. -/
def declaredType : EntityProperty → TypeExpr
  | p@{ nested := nested, .. } =>
    if nested.isEmpty then p.type
    else
      let record := TypeExpr.record (nestedFields nested)
      if p.isArray then .array record else record.orNull p.nullable

def nestedFields : List EntityProperty → List (String × Bool × TypeExpr)
  | [] => []
  | p :: rest => (Naming.propertyKey p.name, !p.required, declaredType p) :: nestedFields rest

end

/-- A comment would end at a slash behind a star. -/
def commentLine (line : List Char) : List Char := Text.replacePair '*' '/' ['*', '\\', '/'] line

def commentText (description : String) : String :=
  "  /**\n"
    ++ String.join ((Text.lines description.toList).map fun line =>
      "   * " ++ String.ofList (commentLine line) ++ "\n")
    ++ "   */\n"

def decoratorLine (d : Decorator) : String := "  " ++ d.text ++ "\n"

end EntityProperty

structure EntityMember where
  description : Option String
  decorators : List Decorator
  key : String
  optional : Bool
  type : TypeExpr
deriving Repr

namespace EntityMember

def ofProperty (typeOrm validated : Bool) (p : EntityProperty) : EntityMember :=
  { description := p.description
    decorators := (if typeOrm then [p.column] else []) ++ (if validated then p.validation else [])
    key := Naming.propertyKey p.name
    optional := !p.required
    type := p.declaredType }

def text (m : EntityMember) : String :=
  (m.description.map EntityProperty.commentText).getD ""
    ++ String.join (m.decorators.map EntityProperty.decoratorLine)
    ++ TypeExpr.fieldLine 1 m.key m.optional (m.type.text 1)

end EntityMember

structure EntityFile where
  imports : List Import
  localAlias : Option String
  table : Option String
  isClass : Bool
  exportForm : ExportForm
  name : String
  members : List EntityMember
deriving Repr

namespace EntityFile

def typeOrmNames : List String := ["Entity", "PrimaryGeneratedColumn", "Column"]

def validationNames : List String :=
  ["IsNotEmpty", "IsOptional", "IsString", "IsNumber", "IsBoolean", "IsEmail", "IsDate", "IsArray",
    "IsEnum"]

/-- A decorator counts as used where the text of a member applies it. -/
def uses (members : List EntityMember) (name : String) : Bool :=
  let sign := ("@" ++ name ++ "(").toList
  members.any fun m => Text.occurs sign m.text.toList

def decoratorImports (members : List EntityMember) (typeOrm validated : Bool) : List Import :=
  let used := validationNames.filter (uses members)
  (if typeOrm then
      [⟨false, .names (typeOrmNames.filter fun n => n == "Entity" || uses members n), "typeorm"⟩]
    else [])
    ++ (if validated && !used.isEmpty then [⟨false, .names used, "class-validator"⟩] else [])

def stem (name : String) : String := Unicode.lowercase name ++ ".entity"

def isEntityName (reference : String) : Bool :=
  (Entity.stripSuffix? reference).any fun name => !name.isEmpty

def addReference (found : List String) (reference : String) : List String :=
  if isEntityName reference && !found.contains reference then found ++ [reference] else found

mutual

/-- The entities that properties refer to at any depth, in the order of their first use. -/
def references (found : List String) : EntityProperty → List String
  | p@{ nested := nested, .. } =>
    allReferences ((p.reference.map (addReference found)).getD found) nested

def allReferences (found : List String) : List EntityProperty → List String
  | [] => found
  | p :: rest => allReferences (references found p) rest

end

/-- A type comes in under the name of its schema, which is what the types of properties say. -/
def referenceImport (form : ExportForm) (schema : String) : Import :=
  let name := (Entity.stripSuffix? schema).getD schema
  { typeOnly := true
    clause := match form with
      | .named => .renamed (Naming.typeIdentifier name) schema
      | .default => .default schema
    source := "./" ++ stem name }

def ofEntity (options : EntityOptions) (entity : Entity) : EntityFile :=
  let typeOrm := options.useClasses && options.includeTypeOrm
  let validated := options.useClasses && options.includeValidation
  let members := entity.properties.map (EntityMember.ofProperty typeOrm validated)
  let references := allReferences [] entity.properties
  { imports := decoratorImports members typeOrm validated
      ++ (references.filter (· != entity.schemaName)).map (referenceImport options.exportForm)
    localAlias := if references.contains entity.schemaName then some entity.schemaName else none
    table := if typeOrm then some (Unicode.lowercase entity.name ++ "s") else none
    isClass := options.useClasses
    exportForm := options.exportForm
    name := Naming.typeIdentifier entity.name
    members := members }

def exportKeyword : ExportForm → String
  | .named => "export "
  | .default => "export default "

def text (file : EntityFile) : String :=
  (if file.imports.isEmpty then "" else Import.allText file.imports ++ "\n")
    ++ (file.localAlias.map fun schema =>
      "type " ++ schema ++ " = " ++ file.name ++ ";\n\n").getD ""
    ++ (file.table.map fun table => "@Entity(\"" ++ table ++ "\")\n").getD ""
    ++ exportKeyword file.exportForm ++ (if file.isClass then "class " else "interface ")
    ++ file.name ++ " \x7b\n"
    ++ "\n".intercalate (file.members.map EntityMember.text) ++ "\x7d\n"

end EntityFile

/-- A line of the index: what a file exports, under which name. -/
structure IndexEntry where
  form : ExportForm
  name : String
  source : String
deriving DecidableEq, Repr

namespace EntityIndex

def ofEntities (form : ExportForm) (entities : List Entity) : List IndexEntry :=
  entities.map fun e => ⟨form, Naming.typeIdentifier e.name, "./" ++ EntityFile.stem e.name⟩

def entryText (entry : IndexEntry) : String :=
  let spec := match entry.form with
    | .named => entry.name
    | .default => "default as " ++ entry.name
  "export \x7b " ++ spec ++ " \x7d from \"" ++ entry.source ++ "\";\n"

def text (entries : List IndexEntry) : String := String.join (entries.map entryText)

end EntityIndex
end OpenApiGen
