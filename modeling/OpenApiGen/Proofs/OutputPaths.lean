import OpenApiGen.Proofs.EmittedFiles
import OpenApiGen.Proofs.PathMarks

/-! # Whether the files of a run stay below the directory they are written to -/

namespace OpenApiGen

/-- Neither empty, nor the directory itself, nor the one above. -/
def IsProper (segment : List Char) : Prop := segment ≠ [] ∧ segment ≠ ['.'] ∧ segment ≠ ['.', '.']

def StaysBelow (path : String) : Prop := ∀ segment ∈ path.toList.splitOn '/', IsProper segment

instance (segment : List Char) : Decidable (IsProper segment) :=
  inferInstanceAs (Decidable (_ ∧ _ ∧ _))

instance (path : String) : Decidable (StaysBelow path) :=
  inferInstanceAs (Decidable (∀ segment ∈ _, _))

/-- A module that is no way to another directory, an entity whose schema name holds none. -/
def Item.Contained : Item → Prop
  | .module name => name ≠ "." ∧ name ≠ ".."
  | .entity schemaName => ∀ segment ∈ (schemaName.toList.splitOn '/').dropLast, IsProper segment
  | .mainRouter | .entityIndex => True

instance (item : Item) : Decidable item.Contained :=
  match item with
  | .module _ => inferInstanceAs (Decidable (_ ∧ _))
  | .entity _ => inferInstanceAs (Decidable (∀ segment ∈ _, IsProper segment))
  | .mainRouter | .entityIndex => inferInstanceAs (Decidable True)

/-- Modules come from the paths of a document, entities from its schemas. -/
def Item.DeclaredIn (doc : Document) : Item → Prop
  | .module name => name ∈ doc.modules
  | .entity schemaName => schemaName ∈ KeyedList.keys doc.components.schemas
  | .mainRouter | .entityIndex => True

theorem isProper_of_length {segment : List Char} (h : 2 < segment.length) : IsProper segment := by
  refine ⟨?_, ?_, ?_⟩ <;> rintro rfl <;> simp at h

theorem SameMarks.isProper_iff {cs ds : List Char} (h : SameMarks cs ds) :
    IsProper cs ↔ IsProper ds := by
  have hnil := h.eq_dots_iff 0
  have hdot := h.eq_dots_iff 1
  have hdots := h.eq_dots_iff 2
  simp only [List.replicate] at hnil hdot hdots
  simp only [IsProper, ne_eq, hnil, hdot, hdots]

theorem forall_isProper_iff {segments segments' : List (List Char)}
    (h : List.Forall₂ SameMarks segments segments') :
    (∀ segment ∈ segments, IsProper segment) ↔ ∀ segment ∈ segments', IsProper segment := by
  induction h with
  | nil => simp
  | cons hfirst _ ih => simp [hfirst.isProper_iff, ih]

/-- The extension lengthens the last segment. -/
theorem exists_extension {options : Options} (he : '/' ∉ options.fileExtension.toList) :
    ∃ tail, '/' ∉ tail ∧ ∀ stem, (options.fileName stem).toList = stem.toList ++ tail := by
  by_cases hempty : options.fileExtension.isEmpty
  · exact ⟨[], by simp, by simp [Options.fileName, hempty]⟩
  · exact ⟨'.' :: options.fileExtension.toList, by simp [he], by simp [Options.fileName, hempty]⟩

theorem splitOn_familyStem (family ending : List Char) {name tail : List Char} (hn : '/' ∉ name)
    (hf : '/' ∉ family ∧ 2 < family.length) (he : '/' ∉ ending ∧ 2 < ending.length)
    (ht : '/' ∉ tail) :
    ∃ segments, (name ++ '/' :: (family ++ '/' :: (name ++ ending)) ++ tail).splitOn '/'
      = name :: segments ∧ ∀ segment ∈ segments, IsProper segment := by
  refine ⟨[family, name ++ ending ++ tail], ?_, ?_⟩
  · have hlast : '/' ∉ name ++ ending ++ tail := by simp [hn, he.1, ht]
    rw [List.append_assoc, List.cons_append, List.splitOn_append_cons_self_of_not_mem hn,
      List.append_assoc, List.cons_append, List.splitOn_append_cons_self_of_not_mem hf.1,
      List.splitOn_eq_singleton hlast]
  · have hlast : 2 < (name ++ ending ++ tail).length := by
      simp only [List.length_append]
      omega
    exact List.forall_mem_cons.mpr ⟨isProper_of_length hf.2,
      List.forall_mem_singleton.mpr (isProper_of_length hlast)⟩

/-- Behind the directory of a module, its files have names of their own. -/
theorem splitOn_moduleStem {name : String} (hn : '/' ∉ name.toList) {tail : List Char}
    (ht : '/' ∉ tail) {stem : String} (hs : stem ∈ Generation.moduleStems name) :
    ∃ segments, (stem.toList ++ tail).splitOn '/' = name.toList :: segments ∧
      ∀ segment ∈ segments, IsProper segment := by
  simp only [Generation.moduleStems, List.mem_cons, List.not_mem_nil, or_false] at hs
  rcases hs with rfl | rfl | rfl | rfl
  · refine ⟨["index.routes".toList ++ tail], ?_, ?_⟩
    · have hlast : '/' ∉ "index.routes".toList ++ tail := by simp [ht]
      rw [← List.splitOn_eq_singleton hlast, ← List.splitOn_append_cons_self_of_not_mem hn]
      simp [Generation.routerStem]
    · have hlast : 2 < ("index.routes".toList ++ tail).length := by simp
      exact List.forall_mem_singleton.mpr (isProper_of_length hlast)
  · have hfamily := splitOn_familyStem "controllers".toList ".controller".toList hn
      (by decide) (by decide) ht
    simpa [Generation.controllerStem] using hfamily
  · have hfamily := splitOn_familyStem "services".toList ".service".toList hn
      (by decide) (by decide) ht
    simpa [Generation.serviceStem] using hfamily
  · have hfamily := splitOn_familyStem "schemas".toList ".schema".toList hn
      (by decide) (by decide) ht
    simpa [Generation.schemaStem] using hfamily

theorem staysBelow_module {options : Options} (he : '/' ∉ options.fileExtension.toList)
    {path name stem : String} (hm : moduleOf? path = some name)
    (hs : stem ∈ Generation.moduleStems name) :
    StaysBelow (options.fileName stem) ↔ (Item.module name).Contained := by
  obtain ⟨tail, ht, hfile⟩ := exists_extension he
  obtain ⟨hnonempty, hslash, -⟩ := moduleOf?_eq_some hm
  obtain ⟨segments, hsplit, hproper⟩ := splitOn_moduleStem hslash ht hs
  have hdot : name = "." ↔ name.toList = ['.'] := by rw [← String.toList_inj]; rfl
  have hdots : name = ".." ↔ name.toList = ['.', '.'] := by rw [← String.toList_inj]; rfl
  unfold StaysBelow
  rw [hfile, hsplit]
  simp only [List.forall_mem_cons, Item.Contained, ne_eq, hdot, hdots]
  constructor
  · rintro ⟨⟨-, hproper⟩, -⟩
    exact hproper
  · intro hname
    exact ⟨⟨hnonempty, hname⟩, hproper⟩

theorem dropLast_splitOn_append {cs tail : List Char} (h : '/' ∉ tail) :
    ((cs ++ tail).splitOn '/').dropLast = (cs.splitOn '/').dropLast := by
  obtain ⟨front, last, hs, ht⟩ := splitOn_append_last cs h
  rw [hs, ht, List.dropLast_concat, List.dropLast_concat]

/-- Lower case keeps the directories in the name of an entity, and neither the suffix of the schema
nor the ending of the file adds one. -/
theorem staysBelow_entity {options : Options} (he : '/' ∉ options.fileExtension.toList)
    {name schemaName : String} (hn : Entity.stripSuffix? schemaName = some name) :
    StaysBelow (options.fileName (EntityFile.stem name)) ↔ (Item.entity schemaName).Contained := by
  obtain ⟨tail, ht, hfile⟩ := exists_extension he
  have hschema : schemaName.toList = name.toList ++ Entity.suffix.toList := by
    rw [Entity.stripSuffix?_eq_some_iff.mp hn, String.toList_append]
  have hstem : (options.fileName (EntityFile.stem name)).toList =
      (Unicode.lowercase name).toList ++ (".entity".toList ++ tail) := by
    rw [hfile, EntityFile.stem, String.toList_append, List.append_assoc]
  have hending : '/' ∉ ".entity".toList ++ tail := by simp [ht]
  obtain ⟨front, last, hs, hfull⟩ := splitOn_append_last (Unicode.lowercase name).toList hending
  have hlast : IsProper (last ++ (".entity".toList ++ tail)) := by
    refine isProper_of_length ?_
    simp
    omega
  have hfront : List.Forall₂ SameMarks (name.toList.splitOn '/').dropLast front := by
    have hmarks := (Unicode.sameMarks_lowercase name).splitOn
    rw [hs] at hmarks
    have hlength : (name.toList.splitOn '/').length - 1 = front.length := by
      rw [hmarks.length_eq]
      simp
    have htake := List.forall₂_take front.length hmarks
    rwa [List.take_left, ← hlength, ← List.dropLast_eq_take] at htake
  have hslash : '/' ∉ Entity.suffix.toList := by decide
  unfold StaysBelow
  rw [hstem, hfull, Item.Contained, hschema, dropLast_splitOn_append hslash,
    forall_isProper_iff hfront]
  constructor
  · intro h segment hmem
    exact h segment (List.mem_append_left _ hmem)
  · intro h segment hmem
    rcases List.mem_append.mp hmem with hmem | hmem
    · exact h segment hmem
    · rw [List.mem_singleton.mp hmem]
      exact hlast

theorem staysBelow_aggregate {options : Options} (he : '/' ∉ options.fileExtension.toList)
    {stem : String} (hs : '/' ∉ stem.toList) (hl : 2 < stem.toList.length) :
    StaysBelow (options.fileName stem) := by
  obtain ⟨tail, ht, hfile⟩ := exists_extension he
  have hslash : '/' ∉ stem.toList ++ tail := by simp [hs, ht]
  have hlength : 2 < (stem.toList ++ tail).length := by
    rw [List.length_append]
    omega
  unfold StaysBelow
  rw [hfile, List.splitOn_eq_singleton hslash]
  exact List.forall_mem_singleton.mpr (isProper_of_length hlength)

namespace Generation

/-- A file stays below the output directory where the name of the module or schema it belongs to
does: a directory of dots, or a schema whose name has an empty segment, leads out of it. -/
theorem staysBelow_iff_contained {options : Options} {doc : Document} {output : Output}
    (he : '/' ∉ options.fileExtension.toList) (hr : (run options doc).outcome = .ok output) :
    ∀ file ∈ output.files,
      file.owner.DeclaredIn doc ∧ (StaysBelow file.path ↔ file.owner.Contained) := by
  obtain ⟨modules, entities, rfl, hmodules, hentities⟩ := run_eq_ok hr
  intro file hf
  cases emits_of_emitAll file hf with
  | module hm hb hentry =>
    obtain ⟨stem, hs, hpath⟩ := path_of_moduleFiles hb _ hentry
    have hdeclared := hmodules _ hm
    obtain ⟨path, -, hmodule⟩ := Document.mem_modules.mp hdeclared
    refine ⟨hdeclared, ?_⟩
    rw [hpath]
    exact staysBelow_module he hmodule hs
  | mainRouter content =>
    refine ⟨trivial, iff_of_true ?_ trivial⟩
    exact staysBelow_aggregate he (by decide) (by decide)
  | entity hentity =>
    obtain ⟨hdeclared, hname⟩ := hentities _ hentity
    exact ⟨hdeclared, staysBelow_entity he hname⟩
  | entityIndex content =>
    refine ⟨trivial, iff_of_true ?_ trivial⟩
    exact staysBelow_aggregate he (by decide) (by decide)

/-- A document of one path and one schema. -/
def smallDocument (path schemaName : String) : Document where
  openapi := "3.0.0"
  info := ⟨"Small", "1", none⟩
  paths := [(path, [(.get, ⟨none, none, none, none, none⟩)])]
  components := { schemas := [(schemaName, {})] }

def routesAndEntities : Options :=
  { artifacts := { controllers := false, services := false, schemas := false } }

theorem staysBelow_iff_contained_users :
    '/' ∉ routesAndEntities.fileExtension.toList ∧
      ∃ output, (run routesAndEntities (smallDocument "/users" "admin/UserEntity")).outcome
          = .ok output ∧
        output.files.map EmittedFile.owner
          = [.module "users", .mainRouter, .entity "admin/UserEntity", .entityIndex] ∧
        ∀ file ∈ output.files, StaysBelow file.path := by
  have he : '/' ∉ routesAndEntities.fileExtension.toList := by decide
  have hrun : (run routesAndEntities (smallDocument "/users" "admin/UserEntity")).outcome.map
      (fun output => output.files.map EmittedFile.owner)
        = .ok [.module "users", .mainRouter, .entity "admin/UserEntity", .entityIndex] := by
    decide +kernel
  obtain ⟨output, hr, howners⟩ := map_eq_ok_iff.mp hrun
  refine ⟨he, output, hr, howners, fun file hf => ?_⟩
  have hcontained : ∀ item ∈ output.files.map EmittedFile.owner, item.Contained := by
    rw [howners]
    decide
  obtain ⟨-, hiff⟩ := staysBelow_iff_contained he hr file hf
  exact hiff.mpr (hcontained _ (List.mem_map_of_mem hf))

/-- A module of two dots is written above the output directory, and the path of an entity may be
absolute. -/
theorem run_leaves_directory :
    '/' ∉ routesAndEntities.fileExtension.toList ∧
      ∃ output, (run routesAndEntities (smallDocument "/../users" "/etc/xEntity")).outcome
          = .ok output ∧
        output.files.map EmittedFile.path
          = ["../index.routes.ts", "routes.ts", "/etc/x.entity.ts", "index.ts"] ∧
        ¬ ∀ file ∈ output.files, StaysBelow file.path := by
  have hrun : (run routesAndEntities (smallDocument "/../users" "/etc/xEntity")).outcome.map
      (fun output => output.files.map EmittedFile.path)
        = .ok ["../index.routes.ts", "routes.ts", "/etc/x.entity.ts", "index.ts"] := by
    decide +kernel
  obtain ⟨output, hr, hpaths⟩ := map_eq_ok_iff.mp hrun
  refine ⟨by decide, output, hr, hpaths, fun h => ?_⟩
  have hbelow : ∀ path ∈ output.files.map EmittedFile.path, StaysBelow path := by
    intro path hp
    obtain ⟨file, hf, rfl⟩ := List.mem_map.mp hp
    exact h file hf
  rw [hpaths] at hbelow
  have habove : ¬ StaysBelow "../index.routes.ts" := by decide
  exact habove (hbelow _ (by simp))

end Generation
end OpenApiGen
