import OpenApiGen.Proofs.OutputPaths
import Mathlib.Data.List.Nodup

/-! # Families of paths: the files of modules, of entities, and the two that sum them up -/

namespace OpenApiGen

theorem Options.fileName_inj {options : Options} {stem stem' : String} :
    options.fileName stem = options.fileName stem' ↔ stem = stem' := by
  unfold fileName
  split
  · rfl
  · constructor
    · intro h
      have hchars := congrArg String.toList h
      simp only [String.toList_append, List.append_assoc] at hchars
      exact String.toList_inj.mp (List.append_cancel_right hchars)
    · rintro rfl
      rfl

/-- What the files of an item are called, apart from the extension. -/
def Item.stems : Item → List String
  | .module name => Generation.moduleStems name
  | .mainRouter => [Generation.mainRouterStem]
  | .entity schemaName => ((Entity.stripSuffix? schemaName).map EntityFile.stem).toList
  | .entityIndex => [Generation.entityIndexStem]

inductive PathFamily
  | module | mainRouter | entity | entityIndex
deriving DecidableEq

def Item.family : Item → PathFamily
  | .module _ => .module
  | .mainRouter => .mainRouter
  | .entity _ => .entity
  | .entityIndex => .entityIndex

/-- The last letter of a stem tells its family, and of the routers the one without a slash mounts all
others. -/
def PathFamily.ofStem (stem : String) : PathFamily :=
  if stem.toList.getLast? = some 'y' then .entity
  else if stem.toList.getLast? = some 'x' then .entityIndex
  else if '/' ∈ stem.toList then .module
  else .mainRouter

theorem getLast?_append (front : String) {ending : String} (h : ending.toList ≠ []) :
    (front ++ ending).toList.getLast? = ending.toList.getLast? := by
  rw [String.toList_append, List.getLast?_append_of_ne_nil _ h]

theorem Generation.nodup_moduleStems (name : String) : (moduleStems name).Nodup := by
  -- the last letters are different
  have hrouter : (routerStem name).toList.getLast? = some 's' := getLast?_append _ (by decide)
  have hcontroller : (controllerStem name).toList.getLast? = some 'r' :=
    getLast?_append _ (by decide)
  have hservice : (serviceStem name).toList.getLast? = some 'e' := getLast?_append _ (by decide)
  have hschema : (schemaStem name).toList.getLast? = some 'a' := getLast?_append _ (by decide)
  have hn : ((moduleStems name).map fun stem => stem.toList.getLast?).Nodup := by
    simp only [moduleStems, List.map_cons, List.map_nil, hrouter, hcontroller, hservice, hschema]
    decide
  exact hn.of_map

theorem ofStem_of_moduleStem {front ending : String} (hslash : '/' ∈ (front ++ ending).toList)
    (hending : ending.toList.getLast? ∈ [some 's', some 'r', some 'e', some 'a']) :
    PathFamily.ofStem (front ++ ending) = .module := by
  have hne : ending.toList ≠ [] := by
    intro h
    simp [h] at hending
  have hlast := getLast?_append front hne
  unfold PathFamily.ofStem
  rw [hlast]
  rw [if_neg, if_neg, if_pos hslash]
  · intro h
    simp [h] at hending
  · intro h
    simp [h] at hending

theorem Item.family_eq_ofStem {item : Item} {stem : String} (h : stem ∈ item.stems) :
    item.family = PathFamily.ofStem stem := by
  cases item with
  | module name =>
    simp only [stems, Generation.moduleStems, List.mem_cons, List.not_mem_nil, or_false] at h
    rcases h with rfl | rfl | rfl | rfl
    · exact (ofStem_of_moduleStem (by simp) (by decide)).symm
    · exact (ofStem_of_moduleStem (by simp) (by decide)).symm
    · exact (ofStem_of_moduleStem (by simp) (by decide)).symm
    · exact (ofStem_of_moduleStem (by simp) (by decide)).symm
  | mainRouter =>
    rw [List.mem_singleton.mp h]
    decide
  | entity schemaName =>
    simp only [stems, Option.mem_toList, Option.map_eq_some_iff] at h
    obtain ⟨name, -, rfl⟩ := h
    have hlast : (EntityFile.stem name).toList.getLast? = some 'y' :=
      getLast?_append _ (by decide)
    rw [PathFamily.ofStem, if_pos hlast, family]
  | entityIndex =>
    rw [List.mem_singleton.mp h]
    decide

theorem name_of_moduleStem {name name' stem : String} (hn : '/' ∉ name.toList)
    (hn' : '/' ∉ name'.toList) (h : stem ∈ Generation.moduleStems name)
    (h' : stem ∈ Generation.moduleStems name') : name = name' := by
  have htail : '/' ∉ ([] : List Char) := List.not_mem_nil
  obtain ⟨segments, hsplit, -⟩ := splitOn_moduleStem hn htail h
  obtain ⟨segments', hsplit', -⟩ := splitOn_moduleStem hn' htail h'
  rw [hsplit] at hsplit'
  exact String.toList_inj.mp (List.cons.inj hsplit').1

theorem slash_not_mem_module {doc : Document} {name : String} (h : name ∈ doc.modules) :
    '/' ∉ name.toList := by
  obtain ⟨path, -, hpath⟩ := Document.mem_modules.mp h
  exact (moduleOf?_eq_some hpath).2.1

/-- Only entities share a path with one another. -/
theorem Item.eq_or_entities_of_stem {doc : Document} {a b : Item} (ha : a.DeclaredIn doc)
    (hb : b.DeclaredIn doc) {stem : String} (hstem : stem ∈ a.stems) (hstem' : stem ∈ b.stems) :
    a = b ∨ a.family = .entity ∧ b.family = .entity := by
  have hfamily : a.family = b.family := by
    rw [family_eq_ofStem hstem, family_eq_ofStem hstem']
  cases a with
  | module name =>
    cases b with
    | module name' =>
      have hname := name_of_moduleStem (slash_not_mem_module ha) (slash_not_mem_module hb) hstem
        hstem'
      exact .inl (by rw [hname])
    | _ => cases hfamily
  | mainRouter =>
    cases b with
    | mainRouter => exact .inl rfl
    | _ => cases hfamily
  | entity schemaName => exact .inr ⟨rfl, hfamily.symm⟩
  | entityIndex =>
    cases b with
    | entityIndex => exact .inl rfl
    | _ => cases hfamily

end OpenApiGen
