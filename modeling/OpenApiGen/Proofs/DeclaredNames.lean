import OpenApiGen.Proofs.EntityBindings
import OpenApiGen.Proofs.HandlerNames

/-!
# Which declared names are words of the language

Every name that is declared for a handler, a schema or an entity has the form of an identifier. It
can still be a reserved word: a schema that is called like one keeps its name, and a path without a
letter or digit leaves a handler with its verb alone, and one of the verbs is reserved.
-/

namespace OpenApiGen

namespace Naming

/-- The words that declare nothing: those reserved everywhere, and those reserved in modules. -/
def reservedWords : List String :=
  ["break", "case", "catch", "class", "const", "continue", "debugger", "default", "delete", "do",
    "else", "enum", "export", "extends", "false", "finally", "for", "function", "if", "import",
    "in", "instanceof", "new", "null", "return", "super", "switch", "this", "throw", "true", "try",
    "typeof", "var", "void", "while", "with"]
  ++ ["await", "implements", "interface", "let", "package", "private", "protected", "public",
    "static", "yield"]

theorem isLower_of_mem_reservedWords {word : String} (h : word ∈ reservedWords) :
    ∀ c ∈ word.toList, c.isLower := by
  have hall : reservedWords.all fun word => word.toList.all Char.isLower := by
    simp [reservedWords]
  exact List.all_eq_true.mp (List.all_eq_true.mp hall word h)

theorem isNameChar_of_isAlphanum {c : Char} (h : c.isAlphanum) : isNameChar c := by
  rw [isNameChar, h, Bool.true_or, Bool.true_or]

theorem isNameStart_of_isAlphanum {c : Char} (h : c.isAlphanum) (hd : c.isDigit = false) :
    isNameStart c := by
  rw [Char.isAlphanum, hd, Bool.or_false] at h
  rw [isNameStart, h, Bool.true_or, Bool.true_or]

theorem isIdentifier_of_mem_reservedWords {word : String} (h : word ∈ reservedWords) :
    isIdentifier word := by
  have hlower := isLower_of_mem_reservedWords h
  have halpha : ∀ {d : Char}, d.isLower → d.isAlpha := fun hd => by
    unfold Char.isAlpha
    rw [hd, Bool.or_true]
  unfold isIdentifier
  cases hchars : word.toList with
  | nil => exact absurd (String.toList_eq_nil_iff.mp hchars ▸ h) (by decide)
  | cons c cs =>
    rw [hchars, List.forall_mem_cons] at hlower
    rw [isIdentifierChars, Bool.and_eq_true, List.all_eq_true]
    refine ⟨by simp [isNameStart, halpha hlower.1], fun d hd => isNameChar_of_isAlphanum ?_⟩
    rw [Char.isAlphanum, halpha (hlower.2 d hd), Bool.true_or]

theorem isIdentifierChars_guardStart {cs : List Char} (h : ∀ c ∈ cs, c.isAlphanum) :
    isIdentifierChars (guardStart cs) := by
  cases cs with
  | nil => rfl
  | cons c cs =>
    obtain ⟨hc, hcs⟩ := List.forall_mem_cons.mp h
    have hrest : cs.all isNameChar :=
      List.all_eq_true.mpr fun d hd => isNameChar_of_isAlphanum (hcs d hd)
    rw [guardStart]
    cases hd : c.isDigit with
    | true =>
      rw [if_pos rfl, isIdentifierChars, List.all_cons, isNameChar_of_isAlphanum hc, hrest]
      rfl
    | false =>
      rw [if_neg Bool.false_ne_true, isIdentifierChars, isNameStart_of_isAlphanum hc hd, hrest]
      rfl

theorem isIdentifier_typeIdentifier (name : String) : isIdentifier (typeIdentifier name) := by
  unfold typeIdentifier
  split
  · assumption
  · rw [isIdentifier, String.toList_ofList]
    exact isIdentifierChars_guardStart isAlphanum_of_mem_routeChars

theorem isLower_head?_guardStart {cs : List Char} {c : Char}
    (h : (guardStart (routeChars cs)).head? = some c) : c.isLower = false := by
  cases hr : routeChars cs with
  | nil =>
    rw [hr] at h
    cases h
    decide
  | cons d rest =>
    rw [hr, guardStart] at h
    split at h
    · cases h
      decide
    · cases h
      exact isLower_head?_routeChars (by rw [hr, List.head?_cons])

/-- A name that is made up of pieces is no word: it does not begin with a small letter. -/
theorem typeIdentifier_mem_reservedWords_iff {name : String} :
    typeIdentifier name ∈ reservedWords ↔ name ∈ reservedWords := by
  unfold typeIdentifier
  split
  · exact Iff.rfl
  · rename_i hother
    refine ⟨fun hword => ?_, fun hword => absurd (isIdentifier_of_mem_reservedWords hword) hother⟩
    have hsmall := isLower_of_mem_reservedWords hword
    rw [String.toList_ofList] at hsmall
    cases hg : guardStart (routeChars name.toList) with
    | nil =>
      have hchars : isIdentifierChars (guardStart (routeChars name.toList)) :=
        isIdentifierChars_guardStart isAlphanum_of_mem_routeChars
      rw [hg] at hchars
      cases hchars
    | cons c rest =>
      have hcapital : c.isLower = false := isLower_head?_guardStart (by rw [hg, List.head?_cons])
      have hlower := hsmall c (hg ▸ List.mem_cons_self ..)
      cases hcapital.symm.trans hlower

theorem isIdentifier_handlerName (verb : Verb) (route : String) :
    isIdentifier (handlerName verb.name route) := by
  have hverb : isIdentifierChars verb.name.toList := by
    cases verb <;> decide
  have hroute : (routeChars route.toList).all isNameChar :=
    List.all_eq_true.mpr fun c hc => isNameChar_of_isAlphanum (isAlphanum_of_mem_routeChars c hc)
  rw [isIdentifier, toList_handlerName, lowercase_verb_name]
  cases hv : verb.name.toList with
  | nil =>
    rw [hv] at hverb
    cases hverb
  | cons c rest =>
    rw [hv, isIdentifierChars, Bool.and_eq_true] at hverb
    rw [List.cons_append, isIdentifierChars, List.all_append, hverb.1, hverb.2, hroute]
    rfl

theorem verb_mem_reservedWords_iff {verb : Verb} : verb.name ∈ reservedWords ↔ verb = .delete := by
  cases verb <;> decide

/-- Only a verb can be a word, and only one of them is. -/
theorem handlerName_mem_reservedWords_iff {verb : Verb} {route : String} :
    handlerName verb.name route ∈ reservedWords ↔
      verb = .delete ∧ ∀ c ∈ route.toList, c.isAlphanum = false := by
  rw [← routeChars_eq_nil_iff, ← verb_mem_reservedWords_iff]
  constructor
  · intro hword
    have hverb := takeWhile_handlerName verb route
    rw [List.takeWhile_eq_self_iff.mpr (isLower_of_mem_reservedWords hword)] at hverb
    refine ⟨String.toList_inj.mp hverb ▸ hword, ?_⟩
    rwa [toList_handlerName, lowercase_verb_name, List.append_right_eq_self] at hverb
  · rintro ⟨hword, hnil⟩
    have hname : handlerName verb.name route = verb.name := by
      rw [← String.toList_inj, toList_handlerName, lowercase_verb_name, hnil, List.append_nil]
    rwa [hname]

theorem isAlphanum_routeTemplate_iff {path : String} :
    (∀ c ∈ (routeTemplate path).toList, c.isAlphanum = false) ↔
      ∀ c ∈ path.toList, c.isAlphanum = false := by
  have hchar : ∀ c : Char, (∀ d ∈ templateChar c, d.isAlphanum = false) ↔ c.isAlphanum = false := by
    intro c
    unfold templateChar
    split
    · rename_i hc
      simp [hc]
    · split
      · rename_i hc
        simp [hc]
      · exact List.forall_mem_singleton
  rw [routeTemplate_toList, List.forall_mem_flatMap]
  simp only [hchar]

end Naming

namespace Handler

variable {doc : Document} {bearer : String} {module : ModuleRoutes} {handlers : List Handler}

/-- The name of a handler is a word if its verb is one and its path adds nothing to it. -/
theorem name_mem_reservedWords_iff
    (hm : (doc.extractModule bearer module.module).outcome = .ok module)
    (h : ofModule module = .ok handlers) {handler : Handler} (hh : handler ∈ handlers) :
    Naming.isIdentifier handler.name ∧ (handler.name ∈ Naming.reservedWords ↔
      handler.method.verb = .delete ∧
        ∀ c ∈ handler.route.sourcePath.toList, c.isAlphanum = false) := by
  have hserve := Document.candidates_serve hm
  rw [← ofModule_eq_candidates h] at hserve
  obtain ⟨operation, -, hs⟩ := exists_of_forall₂ hserve hh
  rw [hs.name, hs.describes.sourcePath, hs.describes.method.verb, Document.handlerNameOf]
  refine ⟨Naming.isIdentifier_handlerName _ _, ?_⟩
  rw [Naming.handlerName_mem_reservedWords_iff, Naming.isAlphanum_routeTemplate_iff]

end Handler

namespace Entity

variable {doc : Document} {policy : ReferencePolicy} {entities : List Entity} {entity : Entity}

/-- What ends in the suffix of entities is no word. -/
theorem schemaName_not_mem_reservedWords (h : (extract doc policy).outcome = .ok entities)
    (he : entity ∈ entities) : entity.schemaName ∉ Naming.reservedWords := by
  intro hword
  have hcapital : 'E' ∈ entity.schemaName.toList := by
    rw [stripSuffix?_eq_some_iff.mp (of_extract h entity he).2, String.toList_append]
    exact List.mem_append_right _ (by decide)
  exact absurd (Naming.isLower_of_mem_reservedWords hword 'E' hcapital) (by decide)

end Entity

/-- The names that are declared for handlers, for the schemas of bodies and for entities have the
form of identifiers, and they are words of the language in three cases alone: a path without letters
and digits is deleted, a schema is called by a word, or an entity is. The alias that an entity which
refers to itself has in its file is called like the schema, whatever its form. -/
theorem Document.declared_names_reserved_iff (doc : Document) :
    (∀ bearer modules, (doc.extractModules bearer).outcome = .ok modules → ∀ module ∈ modules,
      ∀ handlers, Handler.ofModule module = .ok handlers →
        (∀ handler ∈ handlers, Naming.isIdentifier handler.name ∧
          (handler.name ∈ Naming.reservedWords ↔ handler.method.verb = .delete ∧
            ∀ c ∈ handler.route.sourcePath.toList, c.isAlphanum = false)) ∧
        ∀ service, ModuleService.ofHandlers handlers = .ok service →
          ∀ declared ∈ service.declarations, Naming.isIdentifier declared.identifier ∧
            (declared.identifier ∈ Naming.reservedWords ↔
              declared.schema ∈ Naming.reservedWords)) ∧
    ∀ policy entities, (Entity.extract doc policy).outcome = .ok entities → ∀ entity ∈ entities,
      ∀ options, Naming.isIdentifier (EntityFile.ofEntity options entity).name ∧
        ((EntityFile.ofEntity options entity).name ∈ Naming.reservedWords ↔
          entity.name ∈ Naming.reservedWords) ∧
        ∀ name ∈ (EntityFile.ofEntity options entity).localAlias, name = entity.schemaName ∧
          name ∉ Naming.reservedWords := by
  refine ⟨fun bearer modules hmodules module hm handlers hh => ⟨fun handler hhandler => ?_, ?_⟩,
    fun policy entities hentities entity he options => ?_⟩
  · exact Handler.name_mem_reservedWords_iff (extractModule_of_mem hmodules hm) hh hhandler
  · intro service hservice declared hdeclared
    have hflattened : Handler.Flattened doc True handlers :=
      Handler.flattened_of_ofModule (extractModule_of_mem hmodules hm) hh fun _ _ _ => trivial
    obtain ⟨-, hextends⟩ := ModuleService.extends_of_flattened hflattened hservice
    obtain ⟨origin, required, properties, -, rfl, -⟩ :=
      (hextends.made declared hdeclared).resolve_left List.not_mem_nil
    exact ⟨Naming.isIdentifier_typeIdentifier _, Naming.typeIdentifier_mem_reservedWords_iff⟩
  · refine ⟨Naming.isIdentifier_typeIdentifier _, Naming.typeIdentifier_mem_reservedWords_iff,
      fun name hname => ?_⟩
    have halias := EntityFile.eq_of_mem_localAlias options entity (Option.mem_toList.mpr hname)
    rw [halias]
    exact ⟨rfl, Entity.schemaName_not_mem_reservedWords hentities he⟩

namespace Document

def removedReference (name : String) : Schema :=
  { reference := some ("#/components/schemas/" ++ name) }

/-- Something of a schema is deleted, and an entity is called like the schema. -/
def removal (path name : String) : Document :=
  .ofBodies path [(.delete, removedReference name)]
    [(name, { type := some (.single "object") }), (name ++ Entity.suffix, {})]

def removalModule (module path name : String) : ModuleRoutes :=
  ⟨module, [⟨routeTemplate path, path,
    [⟨.delete, [], some (.object (some ⟨name, "#/components/schemas/" ++ name⟩) [] []), false⟩]⟩]⟩

theorem extractModules_removal (path name : String) {module : String}
    (hpath : moduleOf? path = some module)
    (hname : Reference.componentName? ("#/components/schemas/" ++ name) .schemas = some name)
    (bearer : String) :
    ((removal path name).extractModules bearer).outcome = .ok [removalModule module path name] := by
  have hleads : RequestBody.Leads (removal path name) (removedReference name)
      ⟨name, "#/components/schemas/" ++ name⟩ { type := some (.single "object") } :=
    ⟨rfl, hname, if_pos rfl⟩
  have hobject : RequestBody.Outcome (removal path name) True 1 [name]
      (some ⟨name, "#/components/schemas/" ++ name⟩) { type := some (.single "object") }
      (some (.object (some ⟨name, "#/components/schemas/" ++ name⟩) [] [])) :=
    .object (by decide) rfl (fun _ => none) fun _ hp => absurd hp List.not_mem_nil
  have hbody : (RequestBody.flatten (removal path name) (removedReference name)).value =
      some (.object (some ⟨name, "#/components/schemas/" ++ name⟩) [] []) :=
    RequestBody.outcome_iff.mp (.follow (by decide) hleads List.not_mem_nil hobject)
  exact extractModules_ofBodies path module [(.delete, removedReference name)] _ [(.delete, _)] hpath
    (.cons ⟨rfl, hbody⟩ .nil) bearer

theorem declared_names_reserved_iff_users :
    ∃ handlers service entities,
      ((removal "/users" "user-dto").extractModules "bearerAuth").outcome =
        .ok [removalModule "users" "/users" "user-dto"] ∧
      Handler.ofModule (removalModule "users" "/users" "user-dto") = .ok handlers ∧
      ModuleService.ofHandlers handlers = .ok service ∧
      (Entity.extract (removal "/users" "user-dto") .error).outcome = .ok entities ∧
      handlers.map Handler.name = ["deleteUsers"] ∧
      (∀ handler ∈ handlers, Naming.isIdentifier handler.name ∧
        handler.name ∉ Naming.reservedWords) ∧
      service.declarations.map (fun d => (d.identifier, d.schema)) = [("UserDto", "user-dto")] ∧
      (∀ declared ∈ service.declarations, declared.identifier ∉ Naming.reservedWords) ∧
      entities.map Entity.name = ["user-dto"] ∧
      ∀ entity ∈ entities, (EntityFile.ofEntity {} entity).name ∉ Naming.reservedWords := by
  have hmodules := extractModules_removal "/users" "user-dto" rfl (by decide +kernel) "bearerAuth"
  have hservice : (ModuleService.ofHandlers
      (Handler.candidates (removalModule "users" "/users" "user-dto"))).map (fun service =>
        service.declarations.map fun d => (d.identifier, d.schema)) =
      .ok [("UserDto", "user-dto")] := by
    decide +kernel
  have hentities : (Entity.extract (removal "/users" "user-dto") .error).outcome.map
      (List.map Entity.name) = .ok ["user-dto"] := by
    decide +kernel
  obtain ⟨service, hs, hdeclared⟩ := map_eq_ok_iff.mp hservice
  obtain ⟨entities, he, hnames⟩ := map_eq_ok_iff.mp hentities
  obtain ⟨hofModules, hofEntities⟩ := declared_names_reserved_iff (removal "/users" "user-dto")
  obtain ⟨hofHandlers, hofServices⟩ :=
    hofModules _ _ hmodules _ (List.mem_singleton.mpr rfl) _ rfl
  refine ⟨_, service, entities, hmodules, rfl, hs, he, by decide, fun handler hh => ?_,
    hdeclared, fun declared hd hword => ?_, hnames, fun entity hentity hword => ?_⟩
  · obtain ⟨hform, hiff⟩ := hofHandlers handler hh
    refine ⟨hform, fun hword => ?_⟩
    obtain rfl := List.mem_singleton.mp hh
    exact absurd ((hiff.mp hword).2 'u' (by decide)) (by decide)
  · have hpair : (declared.identifier, declared.schema) ∈ [("UserDto", "user-dto")] :=
      hdeclared ▸ List.mem_map.mpr ⟨declared, hd, rfl⟩
    have hschema : declared.schema = "user-dto" := congrArg Prod.snd (List.mem_singleton.mp hpair)
    rw [((hofServices service hs) declared hd).2, hschema] at hword
    exact absurd hword (by decide)
  · have hname : entity.name = "user-dto" :=
      List.mem_singleton.mp (hnames ▸ List.mem_map_of_mem hentity)
    rw [(hofEntities _ _ he entity hentity {}).2.1, hname] at hword
    exact absurd hword (by decide)

/-- A verb without a path, a schema and an entity are declared under reserved words. -/
theorem reserved_words_declared :
    ∃ handlers service entities,
      ((removal "/-" "class").extractModules "bearerAuth").outcome =
        .ok [removalModule "-" "/-" "class"] ∧
      Handler.ofModule (removalModule "-" "/-" "class") = .ok handlers ∧
      ModuleService.ofHandlers handlers = .ok service ∧
      (Entity.extract (removal "/-" "class") .error).outcome = .ok entities ∧
      handlers.map Handler.name = ["delete"] ∧
      service.declarations.map Declaration.identifier = ["class"] ∧
      entities.map (fun entity => (EntityFile.ofEntity {} entity).name) = ["class"] ∧
      "delete" ∈ Naming.reservedWords ∧ "class" ∈ Naming.reservedWords := by
  have hmodules := extractModules_removal "/-" "class" rfl (by decide +kernel) "bearerAuth"
  have hservice : (ModuleService.ofHandlers
      (Handler.candidates (removalModule "-" "/-" "class"))).map (fun service =>
        service.declarations.map Declaration.identifier) = .ok ["class"] := by
    decide +kernel
  have hentities : (Entity.extract (removal "/-" "class") .error).outcome.map
      (List.map fun entity => (EntityFile.ofEntity {} entity).name) = .ok ["class"] := by
    decide +kernel
  obtain ⟨service, hs, hdeclared⟩ := map_eq_ok_iff.mp hservice
  obtain ⟨entities, he, hnames⟩ := map_eq_ok_iff.mp hentities
  exact ⟨_, service, entities, hmodules, rfl, hs, he, by decide, hdeclared, hnames,
    by decide, by decide⟩

end Document
end OpenApiGen
