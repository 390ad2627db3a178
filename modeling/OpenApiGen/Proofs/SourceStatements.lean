import OpenApiGen.Generation

/-!
# What generated files consist of

A generated file is a sequence of statements, and each of them takes up whole lines. The text of a
file is that of the statements which its record stands for: what the record imports, registers,
declares and exports, its file does, and it does nothing else.
-/

namespace OpenApiGen

/-- Lines as they stand in a file, where each of them is ended. -/
def linesText (lines : List String) : String := String.join (lines.map (· ++ "\n"))

@[simp] theorem linesText_nil : linesText [] = "" := rfl

@[simp] theorem linesText_cons (line : String) (lines : List String) :
    linesText (line :: lines) = line ++ "\n" ++ linesText lines := by
  simp [linesText]

@[simp] theorem linesText_append (front back : List String) :
    linesText (front ++ back) = linesText front ++ linesText back := by
  simp [linesText, String.join_append]

theorem linesText_map {α : Type} (line : α → String) (xs : List α) :
    linesText (xs.map line) = String.join (xs.map fun x => line x ++ "\n") := by
  rw [linesText, List.map_map]
  rfl

/-- Pieces that are a line each. -/
theorem join_eq_linesText {α : Type} {f line : α → String} (h : ∀ x, f x = line x ++ "\n")
    (xs : List α) : String.join (xs.map f) = linesText (xs.map line) := by
  rw [linesText_map, funext h]

/-- What turns lists into texts piece by piece takes a separator along. -/
theorem text_intercalate {α : Type} {f : List α → String} (hnil : f [] = "")
    (happend : ∀ front back, f (front ++ back) = f front ++ f back) (sep : List α)
    (xss : List (List α)) : f (sep.intercalate xss) = (f sep).intercalate (xss.map f) := by
  induction xss with
  | nil => exact hnil
  | cons xs xss ih =>
    cases xss with
    | nil => simp [List.intercalate_singleton]
    | cons ys yss =>
      rw [List.intercalate_cons_cons, happend, happend, ih]
      simp only [List.map_cons, String.intercalate_cons_cons]

/-! ## Statements and their lines -/

/-- What the body of a plugin does in one line. -/
inductive PluginCall
  | mount (mount : Mount)
  | register (registration : Registration)

/-- A statement of a file, or the blank line between two of them. -/
inductive Statement
  | blank
  | imports (i : Import)
  | exportFrom (entry : IndexEntry)
  | plugin (name : String) (calls : List PluginCall)
  | typeAlias (name : String) (type : TypeExpr)
  | controller (function : ControllerFunction)
  | service (name : String) (arguments : List (RequestPart × String))
  | schema (schema : RequestSchema)
  | entity (table : Option String) (form : ExportForm) (isClass : Bool) (name : String)
      (members : List EntityMember)
  | exportDefault (name : String)
  | exportMembers (names : List String)

def listLine (name : String) : String := "  " ++ name ++ ","

namespace PluginCall

def line : PluginCall → String
  | mount m => "  await app.register(" ++ m.router ++ ", \x7b prefix: \"" ++ m.path ++ "\" \x7d);"
  | register r => match r.verb, r.guarded with
    | .trace, false => "  app.route(\x7b method: \"TRACE\", url: \"" ++ r.url ++ "\", ..."
      ++ r.schema ++ ", handler: " ++ r.handler ++ " \x7d);"
    | .trace, true => "  app.route(\x7b method: \"TRACE\", url: \"" ++ r.url ++ "\", ..."
      ++ r.schema ++ ", onRequest: [jwtMiddleware], handler: " ++ r.handler ++ " \x7d);"
    | verb, false => "  app." ++ verb.name ++ "(\"" ++ r.url ++ "\", " ++ r.schema ++ ", "
      ++ r.handler ++ ");"
    | verb, true => "  app." ++ verb.name ++ "(\"" ++ r.url ++ "\", \x7b ..." ++ r.schema
      ++ ", onRequest: [jwtMiddleware] \x7d, " ++ r.handler ++ ");"

end PluginCall

def Import.lines (i : Import) : List String :=
  let opening := if i.typeOnly then "import type " else "import "
  let closing := " from \"" ++ i.source ++ "\";"
  match i.clause with
  | .default name => [opening ++ name ++ closing]
  | .renamed name localName =>
    [opening ++ "\x7b " ++ name ++ " as " ++ localName ++ " \x7d" ++ closing]
  | .names names => [opening ++ "\x7b " ++ ", ".intercalate names ++ " \x7d" ++ closing]
  | .block names => (opening ++ "\x7b") :: names.map listLine ++ ["\x7d" ++ closing]

def IndexEntry.line (entry : IndexEntry) : String :=
  match entry.form with
  | .named => "export \x7b " ++ entry.name ++ " \x7d from \"" ++ entry.source ++ "\";"
  | .default => "export \x7b default as " ++ entry.name ++ " \x7d from \"" ++ entry.source ++ "\";"

/-- What a controller calls its service with. -/
def RequestPart.argument : RequestPart → String
  | .params => "req.params"
  | .body => "req.body"
  | .query => "req.query"

/-- What the function of the service calls it. -/
def RequestPart.parameter : RequestPart → String
  | .params => "params"
  | .body => "body"
  | .query => "query"

def ControllerFunction.lines (f : ControllerFunction) : List String :=
  ["async function " ++ f.name ++ "(req: FastifyRequest<" ++ f.requestType ++ ">) \x7b",
    "  return new ApiResponse(",
    "    " ++ toString f.status ++ ",",
    "    \"Success\",",
    "    await " ++ f.service ++ "." ++ f.name ++ "("
      ++ ", ".intercalate (f.parts.map RequestPart.argument) ++ "),",
    "  );",
    "\x7d"]

def RequestSchema.lines (s : RequestSchema) : List String :=
  if s.parts.isEmpty then
    ["export const " ++ s.constant ++ " = \x7b", "  schema: \x7b\x7d,", "\x7d;",
      "export type " ++ s.type ++ " = \x7b\x7d;"]
  else
    ["export const " ++ s.constant ++ " = \x7b", "  schema: \x7b"]
      ++ (s.parts.map fun part => "    " ++ part.key ++ ": " ++ part.schema.text 2 ++ ",")
      ++ ["  \x7d,", "\x7d;", "export type " ++ s.type ++ " = \x7b"]
      ++ (s.parts.map fun part =>
        "  " ++ part.generic ++ ": z.infer<typeof " ++ s.constant ++ ".schema." ++ part.key ++ ">;")
      ++ ["\x7d;"]

def EntityMember.lines (m : EntityMember) : List String :=
  (match m.description with
    | none => []
    | some description => "  /**" :: ((Text.lines description.toList).map fun line =>
      "   * " ++ String.ofList (EntityProperty.commentLine line)) ++ ["   */"])
    ++ (m.decorators.map fun d => "  @" ++ d.name ++ "(" ++ ", ".intercalate d.arguments ++ ")")
    ++ ["  " ++ m.key ++ (if m.optional then "?: " else ": ") ++ m.type.text 1 ++ ";"]

namespace Statement

/-- The lines of a statement. A type or a schema may go on over more of them. -/
def lines : Statement → List String
  | blank => [""]
  | imports i => i.lines
  | exportFrom entry => [entry.line]
  | plugin name calls => ("const " ++ name ++ ": FastifyPluginAsyncZod = async (app) => \x7b")
    :: calls.map PluginCall.line ++ ["\x7d;"]
  | typeAlias name type => ["type " ++ name ++ " = " ++ type.text 0 ++ ";"]
  | controller f => f.lines
  | service name arguments => ["async function " ++ name ++ "("
      ++ ", ".intercalate (arguments.map fun (part, type) => part.parameter ++ ": " ++ type)
      ++ ") \x7b",
    "  return null;", "\x7d"]
  | schema s => s.lines
  | entity table form isClass name members =>
    (table.toList.map fun table => "@Entity(\"" ++ table ++ "\")")
      ++ ((match form with
        | .named => "export "
        | .default => "export default ") ++ (if isClass then "class " else "interface ")
        ++ name ++ " \x7b")
      :: [""].intercalate (members.map EntityMember.lines) ++ ["\x7d"]
  | exportDefault name => ["export default " ++ name ++ ";"]
  | exportMembers names => "export default \x7b" :: names.map listLine ++ ["\x7d;"]

/-- The names that a statement binds at the top level of its file. -/
def boundNames : Statement → List String
  | imports i => i.clause.localNames
  | plugin name _ => [name]
  | typeAlias name _ => [name]
  | controller f => [f.name]
  | service name _ => [name]
  | schema s => [s.constant, s.type]
  | entity _ _ _ name _ => [name]
  | _ => []

/-- What a statement takes from another file. -/
def import? : Statement → Option Import
  | imports i => some i
  | _ => none

/-- What a statement does when its plugin runs. -/
def calls : Statement → List PluginCall
  | plugin _ calls => calls
  | _ => []

/-- The names that other files can import, and in which form. -/
def exports : Statement → List (ExportForm × String)
  | exportFrom entry => [(.named, entry.name)]
  | schema s => [(.named, s.constant), (.named, s.type)]
  | entity _ form _ name _ => [(form, name)]
  | exportDefault name => [(.default, name)]
  | exportMembers names => names.map fun name => (.default, name)
  | _ => []

/-- The type that a statement gives a name to. -/
def types : Statement → List (String × TypeExpr)
  | typeAlias name type => [(name, type)]
  | _ => []

end Statement

/-- A file, from the first statement to the last one. -/
abbrev Source := List Statement

namespace Source

def text (source : Source) : String := linesText (source.flatMap Statement.lines)

def imports (source : Source) : List Import := source.filterMap Statement.import?

def boundNames (source : Source) : List String := source.flatMap Statement.boundNames

def calls (source : Source) : List PluginCall := source.flatMap Statement.calls

def exports (source : Source) : List (ExportForm × String) := source.flatMap Statement.exports

def types (source : Source) : List (String × TypeExpr) := source.flatMap Statement.types

@[simp] theorem text_nil : text [] = "" := rfl

@[simp] theorem text_cons (statement : Statement) (source : Source) :
    text (statement :: source) = linesText statement.lines ++ text source := by
  simp [text]

@[simp] theorem text_append (front back : Source) :
    text (front ++ back) = text front ++ text back := by
  simp [text]

theorem text_flatMap {α : Type} (f : α → Source) (xs : List α) :
    text (xs.flatMap f) = String.join (xs.map fun x => text (f x)) := by
  induction xs with
  | nil => rfl
  | cons x xs ih => rw [List.flatMap_cons, text_append, ih, List.map_cons, String.join_cons]

/-- Pieces that are some statements each. -/
theorem join_eq_text {α : Type} {f : α → String} {source : α → Source}
    (h : ∀ x, f x = text (source x)) (xs : List α) :
    String.join (xs.map f) = text (xs.flatMap source) := by
  rw [text_flatMap, funext h]

theorem join_eq_text_map {α : Type} {f : α → String} {statement : α → Statement}
    (h : ∀ x, f x = linesText (statement x).lines) (xs : List α) :
    String.join (xs.map f) = text (xs.map statement) := by
  have hself : ∀ x, f x = text [statement x] := fun x => by simp [h x]
  rw [join_eq_text hself, ← List.map_eq_flatMap]

theorem mem_imports_iff {source : Source} {i : Import} :
    i ∈ imports source ↔ .imports i ∈ source := by
  rw [imports, List.mem_filterMap]
  constructor
  · rintro ⟨statement, hs, hi⟩
    cases statement <;> cases hi
    exact hs
  · exact fun hs => ⟨.imports i, hs, rfl⟩

theorem imports_append (front back : Source) :
    imports (front ++ back) = imports front ++ imports back := List.filterMap_append

@[simp] theorem imports_map (is : List Import) : imports (is.map .imports) = is := by
  simp [imports, Function.comp_def, Statement.import?]

theorem imports_eq_nil {source : Source} (h : ∀ statement ∈ source, statement.import? = none) :
    imports source = [] :=
  List.filterMap_eq_nil_iff.mpr h

theorem flatMap_nothing {α β : Type} (xs : List α) : (xs.flatMap fun _ => ([] : List β)) = [] :=
  List.flatMap_eq_nil_iff.mpr fun _ _ => rfl

/-- What is collected from statements does not depend on the blank lines between them. -/
theorem flatMap_intercalate_blank {α : Type} {f : Statement → List α} (h : f .blank = [])
    (sources : List Source) :
    ([.blank].intercalate sources).flatMap f = sources.flatMap (·.flatMap f) := by
  induction sources with
  | nil => rfl
  | cons source sources ih =>
    cases sources with
    | nil => simp [List.intercalate_singleton]
    | cons next rest =>
      rw [List.intercalate_cons_cons, List.flatMap_append, List.flatMap_append, ih]
      simp [h]

end Source

/-- A text is that of some statements, and these bind no name twice. -/
structure Source.BindsOnce (source : Source) (text : String) : Prop where
  written : text = source.text
  distinct : source.boundNames.Nodup

/-! ## The statements of each kind of file -/

def MainRouter.source (router : MainRouter) : Source :=
  router.imports.map .imports
    ++ [.blank, .plugin "mainRouter" (router.mounts.map .mount), .blank,
      .exportDefault "mainRouter"]

def EntityIndex.source (entries : List IndexEntry) : Source := entries.map .exportFrom

def ModuleRouter.source (router : ModuleRouter) : Source :=
  router.imports.map .imports
    ++ [.blank, .plugin router.name (router.registrations.map .register), .blank,
      .exportDefault router.name]

def ModuleController.source (controller : ModuleController) : Source :=
  controller.imports.map .imports
    ++ (controller.functions.flatMap fun f => [.blank, .controller f])
    ++ [.blank, .exportMembers controller.exports]

def TypeAlias.statement (a : TypeAlias) : Statement := .typeAlias a.name a.type

def Declaration.statement (d : Declaration) : Statement := .typeAlias d.identifier d.type

/-- A function of a service behind the types that it brings along. -/
def ServiceFunction.source (f : ServiceFunction) : Source :=
  (f.aliases.flatMap fun a => [a.statement, .blank]) ++ [.service f.name f.arguments]

def ModuleService.source (service : ModuleService) : Source :=
  [.blank].intercalate ((service.declarations.map fun d => [d.statement])
      ++ service.functions.map ServiceFunction.source)
    ++ [.blank, .exportMembers service.exports]

def ModuleSchemas.source (file : ModuleSchemas) : Source :=
  ModuleSchemas.imports.map .imports ++ file.schemas.flatMap fun s => [.blank, .schema s]

def EntityFile.source (file : EntityFile) : Source :=
  file.imports.map .imports ++ (if file.imports.isEmpty then [] else [.blank])
    ++ (file.localAlias.toList.flatMap fun schema => [.typeAlias schema (.named file.name), .blank])
    ++ [.entity file.table file.exportForm file.isClass file.name file.members]

/-! ## What their statements import, bind and export -/

section

open Source (flatMap_nothing flatMap_intercalate_blank)

theorem MainRouter.imports_source (router : MainRouter) :
    Source.imports router.source = router.imports := by
  rw [source, Source.imports_append, Source.imports_map, Source.imports_eq_nil, List.append_nil]
  simp [Statement.import?]

theorem MainRouter.calls_source (router : MainRouter) :
    Source.calls router.source = router.mounts.map .mount := by
  simp [Source.calls, source, List.flatMap_map, Statement.calls, flatMap_nothing]

theorem ModuleRouter.calls_source (router : ModuleRouter) :
    Source.calls router.source = router.registrations.map .register := by
  simp [Source.calls, source, List.flatMap_map, Statement.calls, flatMap_nothing]

theorem ModuleRouter.imports_source (router : ModuleRouter) :
    Source.imports router.source = router.imports := by
  rw [source, Source.imports_append, Source.imports_map, Source.imports_eq_nil, List.append_nil]
  simp [Statement.import?]

theorem ModuleController.imports_source (controller : ModuleController) :
    Source.imports controller.source = controller.imports := by
  rw [source, List.append_assoc, Source.imports_append, Source.imports_map, Source.imports_eq_nil,
    List.append_nil]
  simp only [List.mem_append, List.mem_flatMap, List.mem_cons, List.not_mem_nil, or_false]
  rintro statement (⟨f, -, rfl | rfl⟩ | rfl | rfl) <;> rfl

theorem MainRouter.boundNames_source (router : MainRouter) :
    Source.boundNames router.source = Import.localNames router.imports ++ ["mainRouter"] := by
  simp [Source.boundNames, source, List.flatMap_map, Statement.boundNames, Import.localNames]

theorem ModuleRouter.boundNames_source (router : ModuleRouter) :
    Source.boundNames router.source = Import.localNames router.imports ++ [router.name] := by
  simp [Source.boundNames, source, List.flatMap_map, Statement.boundNames, Import.localNames]

theorem ModuleController.boundNames_source (controller : ModuleController) :
    Source.boundNames controller.source =
      Import.localNames controller.imports ++ controller.functions.map ControllerFunction.name := by
  simp [Source.boundNames, source, List.flatMap_assoc, Statement.boundNames, Import.localNames,
    List.map_eq_flatMap]

theorem ModuleController.exports_source (controller : ModuleController) :
    Source.exports controller.source = controller.exports.map fun name => (.default, name) := by
  simp [Source.exports, source, List.flatMap_map, List.flatMap_assoc, Statement.exports,
    flatMap_nothing]

theorem ModuleService.exports_source (service : ModuleService) :
    Source.exports service.source = service.exports.map fun name => (.default, name) := by
  unfold Source.exports source
  rw [List.flatMap_append, flatMap_intercalate_blank rfl]
  simp [List.flatMap_map, List.flatMap_assoc, Statement.exports, Declaration.statement,
    TypeAlias.statement, ServiceFunction.source, flatMap_nothing]

theorem ModuleService.types_source (service : ModuleService) :
    Source.types service.source = service.declarations.map (fun d => (d.identifier, d.type)) ++
      (service.functions.flatMap ServiceFunction.aliases).map fun a => (a.name, a.type) := by
  unfold Source.types source
  rw [List.flatMap_append, flatMap_intercalate_blank rfl]
  simp [List.flatMap_assoc, Statement.types, Declaration.statement, TypeAlias.statement,
    ServiceFunction.source, List.map_eq_flatMap]

theorem ModuleSchemas.boundNames_source (file : ModuleSchemas) :
    Source.boundNames file.source = Import.localNames imports ++
      file.schemas.flatMap fun schema => [schema.constant, schema.type] := by
  simp [Source.boundNames, source, List.flatMap_map, List.flatMap_assoc, Statement.boundNames,
    Import.localNames]

theorem ModuleSchemas.exports_source (file : ModuleSchemas) : Source.exports file.source =
    file.schemas.flatMap fun s => [(.named, s.constant), (.named, s.type)] := by
  simp [Source.exports, source, List.flatMap_assoc, Statement.exports, imports]

theorem EntityFile.imports_source (file : EntityFile) :
    Source.imports file.source = file.imports := by
  obtain ⟨imports, localAlias, table, isClass, exportForm, name, members⟩ := file
  unfold source
  rw [List.append_assoc, List.append_assoc, Source.imports_append, Source.imports_map,
    Source.imports_eq_nil, List.append_nil]
  cases imports <;> cases localAlias <;> simp [Statement.import?]

theorem EntityFile.boundNames_source (file : EntityFile) : Source.boundNames file.source =
    Import.localNames file.imports ++ file.localAlias.toList ++ [file.name] := by
  obtain ⟨imports, localAlias, table, isClass, exportForm, name, members⟩ := file
  unfold Source.boundNames source
  cases imports <;> cases localAlias <;>
    simp [List.flatMap_map, Statement.boundNames, Import.localNames]

/-- A file exports its entity, and nothing else. -/
theorem EntityFile.exports_source (file : EntityFile) :
    Source.exports file.source = [(file.exportForm, file.name)] := by
  obtain ⟨imports, localAlias, table, isClass, exportForm, name, members⟩ := file
  unfold Source.exports source
  cases imports <;> cases localAlias <;> simp [List.flatMap_map, Statement.exports]

end

/-! ## Their texts -/

/-- Names on a line each. -/
theorem join_listedName (names : List String) :
    String.join (names.map listedName) = linesText (names.map listLine) :=
  join_eq_linesText (fun name => by simp [listedName, listLine, String.append_assoc]) names

theorem Import.text_eq_lines (i : Import) : i.text = linesText i.lines := by
  obtain ⟨typeOnly, clause, source⟩ := i
  rw [← String.toList_inj]
  unfold text lines keyword ImportClause.text
  cases clause <;> cases typeOnly <;> simp [join_listedName]

theorem Import.allText_eq_source (imports : List Import) :
    Import.allText imports = Source.text (imports.map .imports) :=
  Source.join_eq_text_map Import.text_eq_lines imports

theorem defaultExport_eq_source (names : List String) :
    defaultExport names = Source.text [.blank, .exportMembers names] := by
  rw [← String.toList_inj]
  unfold defaultExport
  simp [Statement.lines, join_listedName]

theorem MainRouter.mountText_eq_line (mount : Mount) :
    mountText mount = (PluginCall.mount mount).line ++ "\n" := by
  rw [← String.toList_inj]
  unfold mountText PluginCall.line
  simp

theorem Registration.text_eq_line (r : Registration) :
    "  " ++ r.text = (PluginCall.register r).line := by
  obtain ⟨verb, url, schema, guarded, handler⟩ := r
  rw [← String.toList_inj]
  unfold text PluginCall.line
  cases verb <;> cases guarded <;> simp

theorem IndexEntry.entryText_eq_line (entry : IndexEntry) :
    EntityIndex.entryText entry = entry.line ++ "\n" := by
  obtain ⟨form, name, source⟩ := entry
  rw [← String.toList_inj]
  unfold EntityIndex.entryText line
  cases form <;> simp

theorem RequestPart.argument_eq : argument = fun part => "req." ++ part.name := by
  funext part
  cases part <;> rfl

theorem RequestPart.parameter_eq : parameter = name := by
  funext part
  cases part <;> rfl

theorem ControllerFunction.text_eq_lines (f : ControllerFunction) :
    f.text = "\n" ++ linesText f.lines := by
  rw [← String.toList_inj]
  unfold text lines
  rw [RequestPart.argument_eq]
  simp

theorem TypeAlias.text_eq_lines (a : TypeAlias) : a.text = linesText a.statement.lines := by
  unfold text
  simp [statement, Statement.lines, String.append_assoc]

theorem Declaration.text_eq_lines (d : Declaration) : d.text = linesText d.statement.lines := by
  unfold text
  simp [statement, Statement.lines, String.append_assoc]

theorem RequestSchema.text_eq_lines (s : RequestSchema) : s.text = linesText s.lines := by
  have hparts : partText = fun part =>
      "    " ++ part.key ++ ": " ++ part.schema.text 2 ++ "," ++ "\n" := by
    funext part
    unfold partText
    simp [String.append_assoc]
  have hgenerics : genericText s.constant = fun part => "  " ++ part.generic ++ ": z.infer<typeof "
      ++ s.constant ++ ".schema." ++ part.key ++ ">;" ++ "\n" := by
    funext part
    unfold genericText
    simp [String.append_assoc]
  rw [← String.toList_inj]
  unfold text lines
  rw [hparts, hgenerics]
  split <;> simp [linesText_map]

theorem EntityMember.text_eq_lines (m : EntityMember) : m.text = linesText m.lines := by
  obtain ⟨description, decorators, key, optional, type⟩ := m
  rw [← String.toList_inj]
  unfold text lines EntityProperty.commentText EntityProperty.decoratorLine Decorator.text
    TypeExpr.fieldLine TypeExpr.indent
  cases description <;> cases optional <;>
    simp [linesText_map, String.toList_join, List.flatMap_map]

/-- The body of an entity, with a blank line between two of its members. -/
theorem EntityMember.intercalate_text (members : List EntityMember) :
    "\n".intercalate (members.map text) = linesText ([""].intercalate (members.map lines)) := by
  rw [text_intercalate linesText_nil linesText_append, List.map_map]
  exact congrArg _ (List.map_congr_left fun m _ => m.text_eq_lines)

theorem MainRouter.text_eq_source (router : MainRouter) :
    router.text = Source.text router.source := by
  have hmounts : String.join (router.mounts.map mountText)
      = linesText ((router.mounts.map PluginCall.mount).map PluginCall.line) := by
    rw [List.map_map]
    exact join_eq_linesText mountText_eq_line router.mounts
  rw [← String.toList_inj]
  unfold text source
  rw [hmounts, Import.allText_eq_source]
  simp [Statement.lines]

theorem EntityIndex.text_eq_source (entries : List IndexEntry) :
    text entries = Source.text (source entries) :=
  Source.join_eq_text_map
    (fun entry => by simp [Statement.lines, entry.entryText_eq_line]) entries

theorem ModuleRouter.text_eq_source (router : ModuleRouter) :
    router.text = Source.text router.source := by
  have hregistrations : String.join (router.registrations.map fun r => "  " ++ r.text ++ "\n")
      = linesText ((router.registrations.map PluginCall.register).map PluginCall.line) := by
    rw [List.map_map]
    exact join_eq_linesText (fun r => by rw [r.text_eq_line]; rfl) router.registrations
  rw [← String.toList_inj]
  unfold text source
  rw [hregistrations, Import.allText_eq_source]
  simp [Statement.lines]

theorem ModuleController.text_eq_source (controller : ModuleController) :
    controller.text = Source.text controller.source := by
  have hfunctions : String.join (controller.functions.map ControllerFunction.text)
      = Source.text (controller.functions.flatMap fun f => [.blank, .controller f]) :=
    Source.join_eq_text (fun f => by simp [Statement.lines, f.text_eq_lines]) controller.functions
  rw [text, source, hfunctions, Import.allText_eq_source, defaultExport_eq_source,
    Source.text_append, Source.text_append]

theorem ServiceFunction.text_eq_source (f : ServiceFunction) : f.text = Source.text f.source := by
  have haliases : String.join (f.aliases.map fun a => a.text ++ "\n")
      = Source.text (f.aliases.flatMap fun a => [a.statement, .blank]) :=
    Source.join_eq_text (fun a => by simp [Statement.lines, a.text_eq_lines]) f.aliases
  rw [← String.toList_inj]
  unfold text source
  rw [haliases]
  simp [Statement.lines, RequestPart.parameter_eq]

theorem ModuleService.text_eq_source (service : ModuleService) :
    service.text = Source.text service.source := by
  have hitems : service.declarations.map Declaration.text
        ++ service.functions.map ServiceFunction.text =
      ((service.declarations.map fun d => [d.statement])
        ++ service.functions.map ServiceFunction.source).map Source.text := by
    rw [List.map_append, List.map_map, List.map_map]
    refine congr (congrArg _ (List.map_congr_left fun d _ => ?_))
      (List.map_congr_left fun f _ => f.text_eq_source)
    simp [d.text_eq_lines]
  rw [text, source, hitems, defaultExport_eq_source, Source.text_append,
    text_intercalate Source.text_nil Source.text_append]
  rfl

theorem ModuleSchemas.text_eq_source (file : ModuleSchemas) :
    file.text = Source.text file.source := by
  have hschemas : String.join (file.schemas.map fun s => "\n" ++ s.text)
      = Source.text (file.schemas.flatMap fun s => [.blank, .schema s]) :=
    Source.join_eq_text (fun s => by simp [Statement.lines, s.text_eq_lines]) file.schemas
  rw [text, source, hschemas, Import.allText_eq_source, Source.text_append]

theorem EntityFile.text_eq_source (file : EntityFile) : file.text = Source.text file.source := by
  obtain ⟨imports, localAlias, table, isClass, exportForm, name, members⟩ := file
  rw [← String.toList_inj]
  unfold text source
  rw [EntityMember.intercalate_text, Import.allText_eq_source]
  cases imports <;> cases localAlias <;> cases table <;> cases exportForm <;> cases isClass <;>
    simp [Statement.lines, exportKeyword, TypeExpr.text]

end OpenApiGen
