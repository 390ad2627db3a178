import OpenApiGen.Options
import OpenApiGen.YamlResolution

/-! # Reading options straight from the text of a file -/

namespace OpenApiGen

/-- How the parts of a record are found in a tree. `entries?` gives named parts and `items?` parts
by position. -/
structure TreeReader (τ : Type) where
  entries? : τ → Option (List (String × τ))
  items? : τ → Option (List τ)
  boolean? : τ → Option Bool
  string? : τ → Option String
  variant? : τ → Option String

namespace TreeReader

variable {τ σ α : Type}

/-- A field of a record and how its part enters the record. -/
abbrev Part (τ σ : Type) := String × (τ → σ → Option σ)

def part (name : String) (read : τ → Option α) (set : α → σ → σ) : Part τ σ :=
  (name, fun tree s => (read tree).map fun a => set a s)

/-- No name of the record may come up twice. -/
def readEntries (parts : List (Part τ σ)) (seen : List String) :
    List (String × τ) → σ → Option σ
  | [], s => some s
  | (name, tree) :: rest, s =>
    match KeyedList.find? name parts with
    | none => readEntries parts seen rest s
    | some read =>
      if seen.contains name then none
      else (read tree s).bind (readEntries parts (name :: seen) rest)

def readItems : List (Part τ σ) → List τ → σ → Option σ
  | _, [], s => some s
  | [], _ :: _, _ => none
  | (_, read) :: parts, tree :: rest, s => (read tree s).bind (readItems parts rest)

def record (reader : TreeReader τ) (parts : List (Part τ σ)) (start : σ) (tree : τ) : Option σ :=
  match reader.entries? tree with
  | some entries => readEntries parts [] entries start
  | none => (reader.items? tree).bind fun items => readItems parts items start

def choice (reader : TreeReader τ) (variants : List (String × α)) (tree : τ) : Option α :=
  (reader.variant? tree).bind fun name => KeyedList.find? name variants

def entityOptions (reader : TreeReader τ) : τ → Option EntityOptions :=
  reader.record [
    part "useClasses" reader.boolean? fun v s => { s with useClasses := v },
    part "includeValidation" reader.boolean? fun v s => { s with includeValidation := v },
    part "includeTypeOrm" reader.boolean? fun v s => { s with includeTypeOrm := v },
    part "exportType" (reader.choice ExportForm.all) fun v s => { s with exportForm := v }] {}

def artifacts (reader : TreeReader τ) : τ → Option Artifacts :=
  reader.record [
    part "routes" reader.boolean? fun v s => { s with routes := v },
    part "controllers" reader.boolean? fun v s => { s with controllers := v },
    part "services" reader.boolean? fun v s => { s with services := v },
    part "schemas" reader.boolean? fun v s => { s with schemas := v },
    part "entities" reader.boolean? fun v s => { s with entities := v }] {}

def options (reader : TreeReader τ) : τ → Option Options :=
  reader.record [
    part "entities" reader.entityOptions fun v s => { s with entities := v },
    part "artifacts" reader.artifacts fun v s => { s with artifacts := v },
    part "unresolvedEntityRefs" (reader.choice ReferencePolicy.all)
      fun v s => { s with unresolvedEntityReferences := v },
    part "bearerScheme" reader.string? fun v s => { s with bearerScheme := v },
    part "fileExtension" reader.string? fun v s => { s with fileExtension := v }] {}

end TreeReader

namespace JsonText

def named? (entries : List (List StringPiece × JsonText)) : Option (List (String × JsonText)) :=
  entries.mapM fun (key, tree) => (StringPiece.text? key).map fun name => (name, tree)

/-- A variant is a text, or the only key of an object with null under it. -/
def variant? : JsonText → Option String
  | .string pieces => StringPiece.text? pieces
  | .object [(key, .null)] => StringPiece.text? key
  | _ => none

def reader : TreeReader JsonText where
  entries? tree := match tree with
    | .object entries => named? entries
    | _ => none
  items? tree := match tree with
    | .array items => some items
    | _ => none
  boolean? tree := match tree with
    | .boolean b => some b
    | _ => none
  string? tree := match tree with
    | .string pieces => StringPiece.text? pieces
    | _ => none
  variant? := variant?

def options? (text : String) : Option Options := (parse? text).bind reader.options

end JsonText

namespace Yaml

/-- The node itself, or the one that its anchor ends up at. -/
def Document.target? (doc : Document) : Node → Option Node
  | .anchored n => doc.targets.lookup n
  | node => some node

def Document.entries? (doc : Document) (node : Node) : Option (List (String × Node)) :=
  match doc.target? node with
  | some (.mapping _ entries) => entries.mapM fun (key, value) =>
    match doc.target? key with
    | some (.scalar _ _ text) => some (text, value)
    | _ => none
  | some (.scalar _ .plain text) => if text.isEmpty then some [] else none
  | _ => none

def Document.boolean? (doc : Document) (node : Node) : Option Bool :=
  match doc.target? node with
  | some (.scalar p style text) =>
    if style = .plain ∨ (style = .literal ∧ p.tag = some (coreTag "bool"))
    then Yaml.boolean? text else none
  | _ => none

def Document.string? (doc : Document) (node : Node) : Option String :=
  match doc.target? node with
  | some (.scalar _ _ text) => some text
  | _ => none

/-- A scalar as it is written, or the tag of an application on nothing. -/
def Document.variant? (doc : Document) (node : Node) : Option String :=
  match doc.target? node with
  | some (.scalar p style text) =>
    if isApplicationTag p then
      if style = .plain ∧ (text.isEmpty ∨ isNull text) then
        p.tag.map fun tag => if tag = "!" then tag else String.ofList (tag.toList.drop 1)
      else none
    else some text
  | _ => none

def Document.reader (doc : Document) : TreeReader Node where
  entries? := doc.entries?
  items? _ := none
  boolean? := doc.boolean?
  string? := doc.string?
  variant? := doc.variant?

/-- A text without a document leaves every option at its default. -/
def options? (text : String) : Option Options :=
  match parse? text with
  | none => none
  | some none => some {}
  | some (some root) =>
    let doc := Document.ofNode root
    doc.reader.options root

end Yaml
end OpenApiGen
