import OpenApiGen.Proofs.Aggregates
import OpenApiGen.Proofs.EntityReferences
import OpenApiGen.Proofs.GuardedRoutes
import OpenApiGen.Proofs.StringLiterals

/-!
# The texts that generated files put between quotes

URLs, mount prefixes, the sources of imports and the names of tables go between double quotes as
they are, while the keys of properties and the literals of schemas are escaped. So a literal stands
for its text exactly where nothing in the text needs an escape. That is so where no path and no
schema is called with a quote, a backslash or the end of a line.
-/

namespace OpenApiGen

/-- A part of a source: as it stands, or a text that is put between double quotes. -/
inductive SourcePiece
  | plain (text : String)
  | quoted (text : String)
deriving DecidableEq, Repr

namespace SourcePiece

def text : SourcePiece → String
  | plain text => text
  | quoted text => "\"" ++ text ++ "\""

def allText (pieces : List SourcePiece) : String := String.join (pieces.map text)

@[simp] theorem allText_nil : allText [] = "" := rfl

@[simp] theorem allText_cons (piece : SourcePiece) (pieces : List SourcePiece) :
    allText (piece :: pieces) = piece.text ++ allText pieces := by
  simp [allText, String.join_cons]

@[simp] theorem allText_append (front back : List SourcePiece) :
    allText (front ++ back) = allText front ++ allText back := by
  simp [allText, String.join_append]

theorem allText_flatMap {α : Type} (f : α → List SourcePiece) (xs : List α) :
    allText (xs.flatMap f) = String.join (xs.map fun x => allText (f x)) := by
  induction xs with
  | nil => rfl
  | cons x xs ih => rw [List.flatMap_cons, allText_append, ih, List.map_cons, String.join_cons]

end SourcePiece

open SourcePiece

def Import.pieces (i : Import) : List SourcePiece :=
  [.plain (keyword i.typeOnly ++ i.clause.text ++ " from "), .quoted i.source, .plain ";\n"]

theorem Import.text_eq (i : Import) : i.text = SourcePiece.allText i.pieces := by
  have hopen : " from \"" = " from " ++ "\"" := rfl
  have hclose : "\";\n" = "\"" ++ ";\n" := rfl
  rw [text, hopen, hclose]
  simp [-String.reduceAppend, pieces, SourcePiece.text, String.append_assoc]

theorem Import.allText_eq (imports : List Import) :
    Import.allText imports = SourcePiece.allText (imports.flatMap pieces) := by
  rw [allText_flatMap, Import.allText]
  exact congrArg String.join (List.map_congr_left fun i _ => i.text_eq)

def Registration.pieces (r : Registration) : List SourcePiece :=
  match r.verb with
  | .trace =>
    [.plain "app.route(\x7b method: \"TRACE\", url: ", .quoted r.url,
      .plain (", ..." ++ r.schema ++ "," ++ (if r.guarded then " onRequest: [jwtMiddleware]," else "")
        ++ " handler: " ++ r.handler ++ " \x7d);")]
  | verb =>
    [.plain ("app." ++ verb.name ++ "("), .quoted r.url,
      .plain (", " ++ (if r.guarded then "\x7b ..." ++ r.schema ++ ", onRequest: [jwtMiddleware] \x7d"
        else r.schema) ++ ", " ++ r.handler ++ ");")]

theorem Registration.text_eq_pieces (r : Registration) : r.text = allText r.pieces := by
  unfold text pieces
  cases r.verb
  case trace =>
    have hopen : "app.route(\x7b method: \"TRACE\", url: \"" =
        "app.route(\x7b method: \"TRACE\", url: " ++ "\"" := rfl
    have hclose : "\", ..." = "\"" ++ ", ..." := rfl
    rw [hopen, hclose]
    simp [-String.reduceAppend, SourcePiece.text, String.append_assoc]
  all_goals
    have hopen : "(\"" = "(" ++ "\"" := rfl
    have hclose : "\", " = "\"" ++ ", " := rfl
    rw [hopen, hclose]
    simp [-String.reduceAppend, SourcePiece.text, String.append_assoc]

namespace ModuleRouter

def pieces (router : ModuleRouter) : List SourcePiece :=
  router.imports.flatMap Import.pieces
    ++ [.plain ("\nconst " ++ router.name ++ ": FastifyPluginAsyncZod = async (app) => \x7b\n")]
    ++ (router.registrations.flatMap fun r => .plain "  " :: r.pieces ++ [.plain "\n"])
    ++ [.plain ("\x7d;\n" ++ "\nexport default " ++ router.name ++ ";\n")]

theorem text_eq (router : ModuleRouter) : router.text = allText router.pieces := by
  simp [text, pieces, Import.allText_eq, allText_flatMap, Registration.text_eq_pieces,
    SourcePiece.text, String.append_assoc]

end ModuleRouter

namespace ModuleController

def pieces (controller : ModuleController) : List SourcePiece :=
  controller.imports.flatMap Import.pieces
    ++ [.plain (String.join (controller.functions.map ControllerFunction.text)
      ++ defaultExport controller.exports)]

theorem text_eq (controller : ModuleController) : controller.text = allText controller.pieces := by
  simp [text, pieces, Import.allText_eq, SourcePiece.text, String.append_assoc]

end ModuleController

namespace MainRouter

def mountPieces (mount : Mount) : List SourcePiece :=
  [.plain ("  await app.register(" ++ mount.router ++ ", \x7b prefix: "), .quoted mount.path,
    .plain " \x7d);\n"]

def pieces (router : MainRouter) : List SourcePiece :=
  router.imports.flatMap Import.pieces
    ++ [.plain "\nconst mainRouter: FastifyPluginAsyncZod = async (app) => \x7b\n"]
    ++ router.mounts.flatMap mountPieces
    ++ [.plain "\x7d;\n\nexport default mainRouter;\n"]

theorem text_eq (router : MainRouter) : router.text = allText router.pieces := by
  have hmount : ∀ mount, mountText mount = allText (mountPieces mount) := by
    intro mount
    have hopen : ", \x7b prefix: \"" = ", \x7b prefix: " ++ "\"" := rfl
    have hclose : "\" \x7d);\n" = "\"" ++ " \x7d);\n" := rfl
    unfold mountText
    rw [hopen, hclose]
    simp [-String.reduceAppend, mountPieces, SourcePiece.text, String.append_assoc]
  have hmounts : String.join (router.mounts.map mountText)
      = allText (router.mounts.flatMap mountPieces) := by
    rw [allText_flatMap]
    exact congrArg String.join (List.map_congr_left fun mount _ => hmount mount)
  rw [text, Import.allText_eq, hmounts, pieces]
  simp [-String.reduceAppend, SourcePiece.text, String.append_assoc]

end MainRouter

namespace EntityFile

def tablePieces (table : Option String) : List SourcePiece :=
  match table with
  | none => []
  | some table => [.plain "@Entity(", .quoted table, .plain ")\n"]

def pieces (file : EntityFile) : List SourcePiece :=
  file.imports.flatMap Import.pieces
    ++ [.plain (if file.imports.isEmpty then "" else "\n"),
      .plain ((file.localAlias.map fun schema =>
        "type " ++ schema ++ " = " ++ file.name ++ ";\n\n").getD "")]
    ++ tablePieces file.table
    ++ [.plain (exportKeyword file.exportForm ++ (if file.isClass then "class " else "interface ")
      ++ file.name ++ " \x7b\n" ++ "\n".intercalate (file.members.map EntityMember.text) ++ "\x7d\n")]

theorem text_eq (file : EntityFile) : file.text = allText file.pieces := by
  have htable : (file.table.map fun table => "@Entity(\"" ++ table ++ "\")\n").getD ""
      = allText (tablePieces file.table) := by
    have hopen : "@Entity(\"" = "@Entity(" ++ "\"" := rfl
    have hclose : "\")\n" = "\"" ++ ")\n" := rfl
    rw [hopen, hclose]
    cases file.table <;>
      simp [-String.reduceAppend, tablePieces, SourcePiece.text, String.append_assoc]
  have himports : (if file.imports.isEmpty then "" else Import.allText file.imports ++ "\n")
      = allText (file.imports.flatMap Import.pieces)
        ++ (if file.imports.isEmpty then "" else "\n") := by
    rw [Import.allText_eq]
    cases file.imports <;> simp
  rw [text, htable, himports, pieces]
  simp [SourcePiece.text, String.append_assoc]

end EntityFile

namespace EntityIndex

def entryPieces (entry : IndexEntry) : List SourcePiece :=
  [.plain ("export \x7b " ++ (match entry.form with
    | .named => entry.name
    | .default => "default as " ++ entry.name) ++ " \x7d from "), .quoted entry.source, .plain ";\n"]

theorem text_eq (entries : List IndexEntry) : text entries = allText (entries.flatMap entryPieces) := by
  have hentry : ∀ entry, entryText entry = allText (entryPieces entry) := by
    rintro ⟨form, name, source⟩
    have hopen : " \x7d from \"" = " \x7d from " ++ "\"" := rfl
    have hclose : "\";\n" = "\"" ++ ";\n" := rfl
    rw [entryText, hopen, hclose]
    cases form <;> simp [-String.reduceAppend, entryPieces, SourcePiece.text, String.append_assoc]
  rw [text, allText_flatMap]
  exact congrArg String.join (List.map_congr_left fun entry _ => hentry entry)

end EntityIndex

/-! ## Files with quoted texts -/

/-- A file that takes texts of the document over into literals. -/
inductive SourceFile
  | router (router : ModuleRouter)
  | controller (controller : ModuleController)
  | mainRouter (router : MainRouter)
  | entity (file : EntityFile)
  | entityIndex (entries : List IndexEntry)

namespace SourceFile

def text : SourceFile → String
  | router r => r.text
  | controller c => c.text
  | mainRouter r => r.text
  | entity file => file.text
  | entityIndex entries => EntityIndex.text entries

def pieces : SourceFile → List SourcePiece
  | router r => r.pieces
  | controller c => c.pieces
  | mainRouter r => r.pieces
  | entity file => file.pieces
  | entityIndex entries => entries.flatMap EntityIndex.entryPieces

theorem text_eq (file : SourceFile) : file.text = allText file.pieces := by
  cases file with
  | router r => exact r.text_eq
  | controller c => exact c.text_eq
  | mainRouter r => exact r.text_eq
  | entity file => exact file.text_eq
  | entityIndex entries => exact EntityIndex.text_eq entries

end SourceFile

open StringLiteral (Verbatim read? marks)

/-- Where it stands, a quoted text is read as itself if it is verbatim, and only then. -/
theorem SourcePiece.read?_allText_iff {text : String} {after : List SourcePiece} :
    read? (allText (.quoted text :: after)).toList = some (utf16 text.toList, (allText after).toList)
      ↔ Verbatim text.toList := by
  have hsource : (allText (.quoted text :: after)).toList =
      '"' :: (text.toList ++ '"' :: (allText after).toList) := by
    simp [SourcePiece.text]
  rw [hsource]
  exact StringLiteral.read?_quoted_iff

/-! ## Texts that are made from the keys of a document -/

namespace StringLiteral

theorem Verbatim.of_subset {cs ds : List Char} (h : Verbatim cs) (hs : ds ⊆ cs) : Verbatim ds :=
  fun c hc => h c (hs hc)

theorem verbatim_append {cs ds : List Char} : Verbatim (cs ++ ds) ↔ Verbatim cs ∧ Verbatim ds :=
  List.forall_mem_append

theorem verbatim_of_all {cs : List Char} (h : cs.all (fun c => !marks.contains c)) : Verbatim cs := by
  simpa [Verbatim, List.all_eq_true] using h

theorem verbatim_module {path module : String} (h : moduleOf? path = some module)
    (hv : Verbatim path.toList) : Verbatim module.toList := by
  obtain ⟨-, -, rest, hrest, -⟩ := moduleOf?_eq_some h
  have hdropped : Text.dropLeading '/' path.toList ⊆ path.toList :=
    (List.dropWhile_sublist _).subset
  rw [hrest] at hdropped
  exact hv.of_subset fun c hc => hdropped (List.mem_append_left _ hc)

theorem verbatim_routeTemplate {path : String} (hv : Verbatim path.toList) :
    Verbatim (routeTemplate path).toList := by
  intro c hc
  rw [routeTemplate_toList] at hc
  obtain ⟨d, hd, hc⟩ := List.mem_flatMap.mp hc
  unfold templateChar at hc
  split at hc
  · rw [List.mem_singleton.mp hc]
    decide
  · split at hc
    · cases hc
    · rw [List.mem_singleton.mp hc]
      exact hv d hd

theorem verbatim_relativeRoute (module : String) {route : String} (hv : Verbatim route.toList) :
    Verbatim (Naming.relativeRoute module route).toList := by
  unfold Naming.relativeRoute
  dsimp only
  split
  · exact verbatim_of_all rfl
  · rename_i rest hrest
    rw [Text.after?_eq_some_iff] at hrest
    have hdropped : Text.dropLeading '/' route.toList ⊆ route.toList :=
      (List.dropWhile_sublist _).subset
    rw [hrest] at hdropped
    rw [String.toList_ofList]
    exact hv.of_subset fun c hc => hdropped (List.mem_append_right _ hc)
  · exact hv

theorem verbatim_stripSuffix? {schemaName name : String}
    (h : Entity.stripSuffix? schemaName = some name) (hv : Verbatim schemaName.toList) :
    Verbatim name.toList := by
  rw [Entity.stripSuffix?_eq_some_iff.mp h, String.toList_append] at hv
  exact hv.of_subset (List.subset_append_left ..)

theorem toLower_marks : ∀ n < 128, (Char.ofNat n).toLower ∈ marks →
    (Char.ofNat n).toLower = Char.ofNat n := by
  decide

/-- A mark in lower case was there before. -/
theorem eq_of_mem_lowerChar {c d : Char} (h : d ∈ Unicode.lowerChar c) (hd : d ∈ marks) : d = c := by
  unfold Unicode.lowerChar at h
  split at h
  · rename_i hascii
    have hlower := toLower_marks c.toNat hascii
    rw [Char.ofNat_toNat] at hlower
    rw [List.mem_singleton.mp h] at hd ⊢
    exact hlower hd
  · rename_i hascii
    split at h
    · simp only [List.mem_cons, List.not_mem_nil, or_false] at h
      rcases h with rfl | rfl <;> exact absurd hd (by decide)
    · have hmarks : ∀ m ∈ marks, m.toNat < 128 ∧ m ∉ Unicode.foldedLetters := by
        simp [marks, Unicode.foldedLetters]
      rw [List.mem_singleton.mp h] at hd
      obtain ⟨hsmall, hfolded⟩ := hmarks _ hd
      exact absurd (Unicode.shift_folded Unicode.folds_lowerOffsets (Nat.le_of_not_lt hascii) hsmall)
        hfolded

theorem verbatim_lowercase {text : String} (hv : Verbatim text.toList) :
    Verbatim (Unicode.lowercase text).toList := by
  rw [Unicode.lowercase, String.toList_ofList]
  generalize text.toList = cs at hv
  have hfrom : ∀ before, Verbatim (Unicode.lowercaseFrom before cs) := by
    induction cs with
    | nil => exact fun before => verbatim_of_all rfl
    | cons c cs ih =>
      intro before
      obtain ⟨hc, hcs⟩ := List.forall_mem_cons.mp hv
      rw [Unicode.lowercaseFrom, verbatim_append]
      refine ⟨?_, ih hcs _⟩
      split
      · split <;> exact verbatim_of_all rfl
      · intro d hd hm
        exact hc (eq_of_mem_lowerChar hd hm ▸ hm)
  exact hfrom []

end StringLiteral

/-- No path and no schema is called with what a literal does not take as it is. -/
structure Document.VerbatimKeys (doc : Document) : Prop where
  paths : ∀ path ∈ KeyedList.keys doc.paths, Verbatim path.toList
  schemas : ∀ name ∈ KeyedList.keys doc.components.schemas, Verbatim name.toList

/-- All quoted texts among some pieces are verbatim. -/
def SourcePiece.QuotesVerbatim (pieces : List SourcePiece) : Prop :=
  ∀ text, .quoted text ∈ pieces → Verbatim text.toList

theorem SourcePiece.quotesVerbatim_append {front back : List SourcePiece} :
    QuotesVerbatim (front ++ back) ↔ QuotesVerbatim front ∧ QuotesVerbatim back := by
  constructor
  · intro h
    exact ⟨fun text ht => h text (List.mem_append_left _ ht),
      fun text ht => h text (List.mem_append_right _ ht)⟩
  · rintro ⟨hf, hb⟩ text ht
    exact (List.mem_append.mp ht).elim (hf text) (hb text)

theorem SourcePiece.quotesVerbatim_flatMap {α : Type} {f : α → List SourcePiece} {xs : List α} :
    QuotesVerbatim (xs.flatMap f) ↔ ∀ x ∈ xs, QuotesVerbatim (f x) := by
  constructor
  · intro h x hx text ht
    exact h text (List.mem_flatMap.mpr ⟨x, hx, ht⟩)
  · intro h text ht
    obtain ⟨x, hx, ht⟩ := List.mem_flatMap.mp ht
    exact h x hx text ht

theorem SourcePiece.quotesVerbatim_plain (text : String) : QuotesVerbatim [.plain text] := by
  simp [QuotesVerbatim]

theorem Import.quotesVerbatim_pieces {imports : List Import} :
    QuotesVerbatim (imports.flatMap pieces) ↔ ∀ i ∈ imports, Verbatim i.source.toList := by
  rw [quotesVerbatim_flatMap]
  simp [QuotesVerbatim, pieces]

theorem Registration.quotesVerbatim_pieces {r : Registration} :
    QuotesVerbatim r.pieces ↔ Verbatim r.url.toList := by
  unfold pieces
  split <;> simp [QuotesVerbatim]

theorem StringLiteral.verbatim_append_string {front back : String} :
    Verbatim (front ++ back).toList ↔ Verbatim front.toList ∧ Verbatim back.toList := by
  rw [String.toList_append, verbatim_append]

open StringLiteral

/-- The source of a file of a module is as verbatim as the name of the module. -/
theorem StringLiteral.verbatim_source {module : String} (hm : Verbatim module.toList) :
    Verbatim (schemaSource module).toList ∧ Verbatim (controllerSource module).toList ∧
      Verbatim (serviceSource module).toList := by
  simp only [schemaSource, controllerSource, serviceSource, verbatim_append_string, hm, and_true]
  exact ⟨⟨⟨verbatim_of_all rfl, verbatim_of_all rfl⟩, verbatim_of_all rfl⟩,
    ⟨⟨verbatim_of_all rfl, verbatim_of_all rfl⟩, verbatim_of_all rfl⟩,
    ⟨verbatim_of_all rfl, verbatim_of_all rfl⟩, verbatim_of_all rfl⟩

theorem ModuleRouter.quotesVerbatim_pieces {module : String} {handlers : List Handler}
    (hm : Verbatim module.toList) (hh : ∀ handler ∈ handlers, Verbatim handler.relativeRoute.toList) :
    QuotesVerbatim (ofHandlers module handlers).pieces := by
  obtain ⟨hschema, hcontroller, -⟩ := verbatim_source hm
  have himports : ∀ i ∈ (ofHandlers module handlers).imports, Verbatim i.source.toList := by
    intro i hi
    rcases mem_imports_iff.mp hi with rfl | ⟨-, rfl⟩ | rfl | ⟨-, rfl⟩
    · exact verbatim_of_all rfl
    · exact hschema
    · exact hcontroller
    · exact verbatim_of_all rfl
  simp only [pieces, quotesVerbatim_append, Import.quotesVerbatim_pieces, quotesVerbatim_plain,
    and_true]
  refine ⟨himports, ?_⟩
  rw [quotesVerbatim_flatMap]
  intro r hr
  obtain ⟨handler, hhandler, rfl⟩ := List.mem_map.mp hr
  rw [← List.singleton_append, quotesVerbatim_append, quotesVerbatim_append,
    Registration.quotesVerbatim_pieces]
  exact ⟨⟨quotesVerbatim_plain _, hh handler hhandler⟩, quotesVerbatim_plain _⟩

theorem ModuleController.quotesVerbatim_pieces {module : String} {handlers : List Handler}
    (hm : Verbatim module.toList) : QuotesVerbatim (ofHandlers module handlers).pieces := by
  obtain ⟨hschema, -, hservice⟩ := verbatim_source hm
  rw [pieces, quotesVerbatim_append, Import.quotesVerbatim_pieces]
  refine ⟨fun i hi => ?_, quotesVerbatim_plain _⟩
  simp only [ofHandlers, List.mem_append, List.mem_cons, List.not_mem_nil, or_false] at hi
  rcases hi with (rfl | hi) | rfl | rfl
  · exact verbatim_of_all rfl
  · split at hi
    · cases hi
    · rw [List.mem_singleton.mp hi]
      exact hschema
  · exact verbatim_of_all rfl
  · exact hservice

theorem MainRouter.quotesVerbatim_pieces {modules : List String}
    (hm : ∀ module ∈ modules, Verbatim module.toList) :
    QuotesVerbatim (ofModules modules).pieces := by
  have himports : ∀ i ∈ (ofModules modules).imports, Verbatim i.source.toList := by
    intro i hi
    rcases List.mem_append.mp hi with hi | hi
    · obtain ⟨module, hmodule, rfl⟩ := List.mem_map.mp hi
      simp only [verbatim_append_string]
      exact ⟨⟨verbatim_of_all rfl, hm module hmodule⟩, verbatim_of_all rfl⟩
    · rw [List.mem_singleton.mp hi]
      exact verbatim_of_all rfl
  simp only [pieces, quotesVerbatim_append, Import.quotesVerbatim_pieces, quotesVerbatim_plain,
    and_true]
  refine ⟨himports, ?_⟩
  rw [quotesVerbatim_flatMap]
  intro mount hmount
  obtain ⟨module, hmodule, rfl⟩ := List.mem_map.mp hmount
  have hpath : Verbatim ("/" ++ module).toList :=
    verbatim_append_string.mpr ⟨verbatim_of_all rfl, hm module hmodule⟩
  simpa [QuotesVerbatim, mountPieces] using hpath

theorem StringLiteral.verbatim_stem {schemaName name : String}
    (hname : Entity.stripSuffix? schemaName = some name) (hv : Verbatim schemaName.toList) :
    Verbatim ("./" ++ EntityFile.stem name).toList := by
  have hlower := verbatim_lowercase (verbatim_stripSuffix? hname hv)
  simp only [EntityFile.stem, verbatim_append_string]
  exact ⟨verbatim_of_all rfl, hlower, verbatim_of_all rfl⟩

theorem EntityFile.verbatim_decoratorImports {members : List EntityMember}
    {typeOrm validated : Bool} :
    ∀ i ∈ decoratorImports members typeOrm validated, Verbatim i.source.toList := by
  intro i hi
  rcases List.mem_append.mp hi with hi | hi
  all_goals
    split at hi
    · rw [List.mem_singleton.mp hi]
      dsimp only
      exact verbatim_of_all rfl
    · cases hi

theorem EntityFile.quotesVerbatim_pieces {options : EntityOptions} {entity : Entity}
    (hname : Entity.stripSuffix? entity.schemaName = some entity.name)
    (hv : Verbatim entity.schemaName.toList)
    (hreferences : ∀ schemaName ∈ allReferences [] entity.properties,
      (Entity.stripSuffix? schemaName).isSome ∧ Verbatim schemaName.toList) :
    QuotesVerbatim (ofEntity options entity).pieces := by
  have himports : ∀ i ∈ (ofEntity options entity).imports, Verbatim i.source.toList := by
    intro i hi
    rcases List.mem_append.mp hi with hi | hi
    · exact verbatim_decoratorImports i hi
    · obtain ⟨schemaName, hschema, rfl⟩ := List.mem_map.mp hi
      obtain ⟨hsome, hverbatim⟩ := hreferences schemaName (List.mem_filter.mp hschema).1
      obtain ⟨name, hstripped⟩ := Option.isSome_iff_exists.mp hsome
      simp only [referenceImport, hstripped, Option.getD_some]
      exact verbatim_stem hstripped hverbatim
  have htable : QuotesVerbatim (tablePieces (ofEntity options entity).table) := by
    simp only [ofEntity]
    split
    · have hlower := verbatim_lowercase (verbatim_stripSuffix? hname hv)
      have hplural : Verbatim (Unicode.lowercase entity.name ++ "s").toList :=
        verbatim_append_string.mpr ⟨hlower, verbatim_of_all rfl⟩
      simpa [tablePieces, QuotesVerbatim] using hplural
    · exact nofun
  have hplain : QuotesVerbatim [.plain (if (ofEntity options entity).imports.isEmpty then "" else "\n"),
      .plain (((ofEntity options entity).localAlias.map fun schema =>
        "type " ++ schema ++ " = " ++ (ofEntity options entity).name ++ ";\n\n").getD "")] := by
    simp [QuotesVerbatim]
  simp only [pieces, quotesVerbatim_append, Import.quotesVerbatim_pieces, quotesVerbatim_plain,
    and_true]
  exact ⟨⟨himports, hplain⟩, htable⟩

theorem EntityIndex.quotesVerbatim_pieces {form : ExportForm} {entities : List Entity}
    (hnames : ∀ entity ∈ entities, Entity.stripSuffix? entity.schemaName = some entity.name ∧
      Verbatim entity.schemaName.toList) :
    QuotesVerbatim ((ofEntities form entities).flatMap entryPieces) := by
  rw [quotesVerbatim_flatMap]
  intro entry he
  obtain ⟨entity, hentity, rfl⟩ := List.mem_map.mp he
  obtain ⟨hname, hv⟩ := hnames entity hentity
  have hsource := verbatim_stem hname hv
  simpa [QuotesVerbatim, entryPieces] using hsource

namespace Generation

variable {options : Options} {doc : Document} {modules mounted skipped : List ModuleRoutes}
  {entities exported dropped : List Entity} {output : Output} {file : EmittedFile}
  {source : SourceFile}

theorem Selects.extract (h : Selects options doc modules entities) {entity : Entity}
    (he : entity ∈ entities) :
    (Entity.extract doc options.unresolvedEntityReferences).outcome = .ok entities := by
  have hentities := h.entities
  split at hentities
  · exact hentities
  · rw [hentities] at he
    cases he

/-- A file of a run over these modules and entities, and the source that it is written from. -/
inductive Presents (options : Options) (modules : List ModuleRoutes) (entities : List Entity) :
    EmittedFile → SourceFile → Prop
  | router {module handlers} (hm : module ∈ modules) (hh : Handler.ofModule module = .ok handlers) :
      Presents options modules entities
        ⟨options.fileName (routerStem module.module),
          (ModuleRouter.ofHandlers module.module handlers).text, .module module.module⟩
        (.router (ModuleRouter.ofHandlers module.module handlers))
  | controller {module handlers} (hm : module ∈ modules)
      (hh : Handler.ofModule module = .ok handlers) :
      Presents options modules entities
        ⟨options.fileName (controllerStem module.module),
          (ModuleController.ofHandlers module.module handlers).text, .module module.module⟩
        (.controller (ModuleController.ofHandlers module.module handlers))
  | mainRouter {mounted : List ModuleRoutes} (hm : mounted.Sublist modules) :
      Presents options modules entities
        ⟨options.fileName mainRouterStem,
          (MainRouter.ofModules (mounted.map ModuleRoutes.module)).text, .mainRouter⟩
        (.mainRouter (MainRouter.ofModules (mounted.map ModuleRoutes.module)))
  | entity {entity} (he : entity ∈ entities) :
      Presents options modules entities (ownFile options entity)
        (.entity (EntityFile.ofEntity options.entities entity))
  | entityIndex {exported : List Entity} (he : exported.Sublist entities) :
      Presents options modules entities
        ⟨options.fileName entityIndexStem,
          EntityIndex.text (EntityIndex.ofEntities options.entities.exportForm exported),
          .entityIndex⟩
        (.entityIndex (EntityIndex.ofEntities options.entities.exportForm exported))

theorem Presents.content_eq (h : Presents options modules entities file source) :
    file.content = allText source.pieces := by
  rw [← source.text_eq]
  cases h <;> rfl

/-- The router and the controller of a module are presented. -/
theorem presents_of_moduleFiles {module : ModuleRoutes} (hm : module ∈ modules)
    {batch : List (String × String)} (hbatch : moduleFiles options module = .ok batch) :
    ∀ entry ∈ batch,
      (∃ source, Presents options modules entities ⟨entry.1, entry.2, .module module.module⟩ source) ∨
        entry.1 = options.fileName (serviceStem module.module) ∨
        entry.1 = options.fileName (schemaStem module.module) := by
  obtain ⟨handlers, hh, -, hentries⟩ := exists_handlers_of_moduleFiles hbatch
  rintro ⟨path, content⟩ he
  cases (hentries path content).mp he with
  | router =>
    rw [← ModuleRouter.text_eq_source]
    exact .inl ⟨_, .router hm hh⟩
  | controller =>
    rw [← ModuleController.text_eq_source]
    exact .inl ⟨_, .controller hm hh⟩
  | service => exact .inr (.inl rfl)
  | schemas => exact .inr (.inr rfl)

/-- Services and schemas apart, every file of a run is presented. -/
theorem Settles.exists_presents
    (h : Settles options modules entities output mounted skipped exported dropped) :
    ∀ file ∈ output.files, (∃ source, Presents options modules entities file source) ∨
      ∃ name, file.owner = .module name ∧ (file.path = options.fileName (serviceStem name) ∨
        file.path = options.fileName (schemaStem name)) := by
  intro file hf
  rcases h.mem_files.mp hf with ⟨offer, ho, hf⟩ | hf | hf
  · rcases List.mem_append.mp ho with ho | ho
    · obtain ⟨module, hm, rfl⟩ := List.mem_map.mp ho
      have hmem := h.moduleOrder.subset hm
      obtain ⟨batch, hbatch⟩ := h.written module hm
      have hfiles : (Offer.ofModule options module).files = .ok batch := hbatch
      simp only [Offer.emitted, hfiles] at hf
      obtain ⟨entry, he, rfl⟩ := List.mem_map.mp hf
      exact (presents_of_moduleFiles hmem hbatch entry he).imp_right fun hpath =>
        ⟨module.module, rfl, hpath⟩
    · obtain ⟨entity, he, rfl⟩ := List.mem_map.mp ho
      rw [List.mem_singleton.mp hf]
      exact .inl ⟨_, .entity (h.entityOrder.subset he)⟩
  · unfold mainRouterFile at hf
    split at hf
    · rw [List.mem_singleton.mp hf]
      exact .inl ⟨_, .mainRouter h.moduleOrder⟩
    · cases hf
  · unfold entityIndexFile at hf
    split at hf
    · cases hf
    · rw [List.mem_singleton.mp hf]
      exact .inl ⟨_, .entityIndex h.entityOrder⟩

section

variable (hs : Selects options doc modules entities) (hd : doc.VerbatimKeys)
include hs hd

theorem verbatim_of_mem_modules {module : ModuleRoutes} (hm : module ∈ modules) :
    Verbatim module.module.toList := by
  have hdeclared := hs.names_sublist.subset (List.mem_map_of_mem hm)
  obtain ⟨path, hpath, hmodule⟩ := Document.mem_modules.mp hdeclared
  exact verbatim_module hmodule (hd.paths path hpath)

theorem verbatim_relativeRoute_of_mem {module : ModuleRoutes} (hm : module ∈ modules)
    {handlers : List Handler} (hh : Handler.ofModule module = .ok handlers) :
    ∀ handler ∈ handlers, Verbatim handler.relativeRoute.toList := by
  intro handler hhandler
  rw [Handler.ofModule_eq_candidates hh] at hhandler
  obtain ⟨operation, ho, hserves⟩ :=
    exists_of_forall₂ (Document.candidates_serve (hs.extractModule hm)) hhandler
  obtain ⟨-, hurl⟩ := Prod.mk.inj hserves.registered
  obtain ⟨entry, he, ho⟩ := List.mem_flatMap.mp ho
  obtain ⟨verb, -, rfl⟩ := List.mem_map.mp ho
  rw [hurl]
  apply verbatim_relativeRoute
  apply verbatim_routeTemplate
  exact hd.paths _ (List.mem_map_of_mem (List.mem_filter.mp he).1)

theorem verbatim_schemaName {entity : Entity} (he : entity ∈ entities) :
    Entity.stripSuffix? entity.schemaName = some entity.name ∧
      Verbatim entity.schemaName.toList :=
  ⟨hs.schemaNames.2 entity he, hd.schemas _ (hs.schemaNames.1.subset (List.mem_map_of_mem he))⟩

/-- Where the keys of a document are verbatim, so is all that its files put between quotes. -/
theorem Presents.quotesVerbatim (h : Presents options modules entities file source) :
    QuotesVerbatim source.pieces := by
  cases h with
  | router hm hh =>
    exact ModuleRouter.quotesVerbatim_pieces (verbatim_of_mem_modules hs hd hm)
      (verbatim_relativeRoute_of_mem hs hd hm hh)
  | controller hm hh =>
    exact ModuleController.quotesVerbatim_pieces (verbatim_of_mem_modules hs hd hm)
  | mainRouter hm =>
    apply MainRouter.quotesVerbatim_pieces
    intro name hname
    obtain ⟨module, hmodule, rfl⟩ := List.mem_map.mp hname
    exact verbatim_of_mem_modules hs hd (hm.subset hmodule)
  | @entity entity he =>
    obtain ⟨hname, hv⟩ := verbatim_schemaName hs hd he
    apply EntityFile.quotesVerbatim_pieces hname hv
    intro schemaName hreference
    obtain ⟨referenced, hmem, rfl⟩ := Entity.exists_referenced (hs.extract he) he hreference
    obtain ⟨hstripped, hverbatim⟩ := verbatim_schemaName hs hd hmem
    exact ⟨by rw [hstripped]; rfl, hverbatim⟩
  | entityIndex he =>
    exact EntityIndex.quotesVerbatim_pieces fun entity hmem =>
      verbatim_schemaName hs hd (he.subset hmem)

end

/-- A literal that a file takes over from the document is read as the text that was put into it
exactly where that text is verbatim. In a document whose keys are verbatim all of them are. -/
theorem quoted_texts_read_iff (hr : (run options doc).outcome = .ok output) :
    ∃ modules entities, Selects options doc modules entities ∧
      (∀ file ∈ output.files, (∃ source, Presents options modules entities file source) ∨
        ∃ name, file.owner = .module name ∧ (file.path = options.fileName (serviceStem name) ∨
          file.path = options.fileName (schemaStem name))) ∧
      ∀ file ∈ output.files, ∀ source, Presents options modules entities file source →
        ∀ before text after, source.pieces = before ++ .quoted text :: after →
          file.content = allText before ++ allText (.quoted text :: after) ∧
          (read? (allText (.quoted text :: after)).toList =
            some (utf16 text.toList, (allText after).toList) ↔ Verbatim text.toList) ∧
          (doc.VerbatimKeys → Verbatim text.toList) := by
  obtain ⟨modules, entities, mounted, skipped, exported, dropped, hs, h⟩ :=
    exists_settles_of_run hr
  refine ⟨modules, entities, hs, h.exists_presents, fun file hf source hp => ?_⟩
  intro before text after hpieces
  refine ⟨?_, read?_allText_iff, fun hd => ?_⟩
  · rw [hp.content_eq, hpieces, allText_append]
  · apply hp.quotesVerbatim hs hd
    rw [hpieces]
    exact List.mem_append_right _ (List.mem_cons_self ..)

def storedUsers : Document := .ofKeys ["/users/{id}"] [("UserEntity", {})]

def storedOptions : Options :=
  { routesAndEntities with entities := { includeTypeOrm := true } }

theorem verbatimKeys_storedUsers : storedUsers.VerbatimKeys where
  paths := List.forall_mem_singleton.mpr (verbatim_of_all rfl)
  schemas := List.forall_mem_singleton.mpr (verbatim_of_all rfl)

theorem quoted_texts_read_iff_storedUsers :
    ∃ output, (run storedOptions storedUsers).outcome = .ok output ∧
      output.paths = ["users/index.routes.ts", "routes.ts", "user.entity.ts", "index.ts"] ∧
      ∃ modules entities, Selects storedOptions storedUsers modules entities ∧
        ∀ file ∈ output.files, ∀ source, Presents storedOptions modules entities file source →
          ∀ before text after, source.pieces = before ++ .quoted text :: after →
            read? (allText (.quoted text :: after)).toList =
              some (utf16 text.toList, (allText after).toList) := by
  have hrun : (run storedOptions storedUsers).outcome.map Output.paths
      = .ok ["users/index.routes.ts", "routes.ts", "user.entity.ts", "index.ts"] := by
    decide +kernel
  obtain ⟨output, hr, hpaths⟩ := map_eq_ok_iff.mp hrun
  obtain ⟨modules, entities, hs, -, hread⟩ := quoted_texts_read_iff hr
  refine ⟨output, hr, hpaths, modules, entities, hs, fun file hf source hp before text after h => ?_⟩
  obtain ⟨-, hiff, hverbatim⟩ := hread file hf source hp before text after h
  exact hiff.mpr (hverbatim verbatimKeys_storedUsers)

def quotedSegment : Document := .ofKeys ["/users/\"all\""] []

/-- The router of the only module. -/
def quotedSegmentRouter : String :=
  "import type \x7b FastifyPluginAsyncZod \x7d from \"fastify-type-provider-zod\";\n"
    ++ "import \x7b\n  getUsersAllSchema,\n\x7d from \"@users/schemas/users.schema.js\";\n"
    ++ "import usersController from \"@users/controllers/users.controller.js\";\n"
    ++ "\nconst usersRouter: FastifyPluginAsyncZod = async (app) => \x7b\n"
    ++ "  app.get(\"/\"all\"\", getUsersAllSchema, usersController.getUsersAll);\n"
    ++ "\x7d;\n\nexport default usersRouter;\n"

/-- The URL `/"all"` stands between quotes as it is. Its literal ends behind the slash, and the rest of
it is read as code. -/
theorem quoted_segment_ends_literal :
    ∃ output, (run routesOnly quotedSegment).outcome = .ok output ∧
      ∃ modules, Selects routesOnly quotedSegment modules [] ∧
        ∃ file ∈ output.files, file.content = quotedSegmentRouter ∧
          ∃ source, Presents routesOnly modules [] file source ∧
            ∃ before after, source.pieces = before ++ .quoted "/\"all\"" :: after ∧
              read? (allText (.quoted "/\"all\"" :: after)).toList =
                some (utf16 ['/'], "all\"\"".toList ++ (allText after).toList) ∧
              read? (allText (.quoted "/\"all\"" :: after)).toList ≠
                some (utf16 "/\"all\"".toList, (allText after).toList) := by
  have hmodules : (quotedSegment.extractModules routesOnly.bearerScheme).outcome.map
      (List.map fun module => (module.module, (Handler.ofModule module).map fun handlers =>
        ((ModuleRouter.ofHandlers module.module handlers).text,
          decide (.quoted "/\"all\"" ∈ (ModuleRouter.ofHandlers module.module handlers).pieces))))
        = .ok [("users", .ok (quotedSegmentRouter, true))] := by
    decide +kernel
  have hrun : (run routesOnly quotedSegment).outcome.map (fun output => decide
      (⟨"users/index.routes.ts", quotedSegmentRouter, .module "users"⟩ ∈ output.files))
        = .ok true := by
    decide +kernel
  obtain ⟨output, hr, hfile⟩ := map_eq_ok_iff.mp hrun
  obtain ⟨modules, hextract, module, hm, hpair⟩ :=
    exists_mem_of_map_eq_ok hmodules (List.mem_singleton.mpr rfl)
  obtain ⟨name, routes⟩ := module
  obtain ⟨rfl, hrouter⟩ := Prod.mk.inj hpair
  obtain ⟨handlers, hh, hrouter⟩ := map_eq_ok_iff.mp hrouter
  obtain ⟨htext, hquoted⟩ := Prod.mk.inj hrouter
  obtain ⟨before, after, hpieces⟩ := List.append_of_mem (of_decide_eq_true hquoted)
  have hs : Selects routesOnly quotedSegment modules [] := ⟨hextract, rfl⟩
  have hpresents : Presents routesOnly modules []
      ⟨"users/index.routes.ts", quotedSegmentRouter, .module "users"⟩
      (.router (ModuleRouter.ofHandlers "users" handlers)) :=
    htext ▸ .router hm hh
  refine ⟨output, hr, modules, hs, _, of_decide_eq_true hfile, rfl, _, hpresents, before, after,
    hpieces, ?_, ?_⟩
  · have hsource : (allText (.quoted "/\"all\"" :: after)).toList =
        '"' :: (['/'] ++ '"' :: ("all\"\"".toList ++ (allText after).toList)) := by
      simp [SourcePiece.text]
    rw [hsource]
    exact StringLiteral.read?_quoted_iff.mpr (verbatim_of_all rfl)
  · rw [ne_eq, read?_allText_iff]
    exact fun hverbatim => hverbatim '"' (by decide) (by decide)

end Generation

end OpenApiGen
