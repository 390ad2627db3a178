import OpenApiGen.Proofs.ModulePartition
import OpenApiGen.Proofs.TypeSpellings

/-!
# Documents in the spelling of OpenAPI 3.0 and in that of 3.1

A document is respelled at any of the schemas in its parameters, bodies and components. Whatever is
extracted from it stays the same, and with it the result of every run.
-/

namespace OpenApiGen

/-- References stay, what is written down in place is related. -/
inductive Referable.Rel {α β : Type} (R : α → β → Prop) : Referable α → Referable β → Prop
  | reference (pointer : String) : Rel R (.reference pointer) (.reference pointer)
  | inline {a : α} {b : β} (h : R a b) : Rel R (.inline a) (.inline b)

structure ParameterEntry.Respells (entry entry' : ParameterEntry) : Prop where
  name : entry.name = entry'.name
  location : entry.location = entry'.location
  required : entry.required = entry'.required
  schema : Option.Rel Schema.Respells entry.schema entry'.schema
  description : entry.description = entry'.description

structure MediaType.Respells (media media' : MediaType) : Prop where
  schema : Option.Rel Schema.Respells media.schema media'.schema

structure BodyEntry.Respells (entry entry' : BodyEntry) : Prop where
  description : entry.description = entry'.description
  content : List.Forall₂ (Keyed MediaType.Respells) entry.content entry'.content
  required : entry.required = entry'.required

structure Operation.Respells (operation operation' : Operation) : Prop where
  operationId : operation.operationId = operation'.operationId
  summary : operation.summary = operation'.summary
  parameters : Option.Rel (List.Forall₂ (Referable.Rel ParameterEntry.Respells))
    operation.parameters operation'.parameters
  requestBody : Option.Rel (Referable.Rel BodyEntry.Respells)
    operation.requestBody operation'.requestBody
  security : operation.security = operation'.security

def PathItem.Respells (item item' : PathItem) : Prop :=
  List.Forall₂ (Keyed Operation.Respells) item item'

structure Components.Respells (components components' : Components) : Prop where
  schemas : List.Forall₂ (Keyed Schema.Respells) components.schemas components'.schemas
  parameters : List.Forall₂ (Keyed ParameterEntry.Respells)
    components.parameters components'.parameters
  requestBodies : List.Forall₂ (Keyed BodyEntry.Respells)
    components.requestBodies components'.requestBodies
  securitySchemes : components.securitySchemes = components'.securitySchemes

/-- The version that the document names may change with the spelling. -/
structure Document.Respells (doc doc' : Document) : Prop where
  info : doc.info = doc'.info
  paths : List.Forall₂ (Keyed PathItem.Respells) doc.paths doc'.paths
  components : doc.components.Respells doc'.components

theorem forall₂_keyed_refl {κ α : Type} {R : α → α → Prop} (hr : ∀ a, R a a)
    (entries : List (κ × α)) : List.Forall₂ (Keyed R) entries entries := by
  rw [List.forall₂_same]
  rintro ⟨key, a⟩ -
  exact .intro key (hr a)

theorem rel_option_refl {α : Type} {R : α → α → Prop} (hr : ∀ a, R a a) (o : Option α) :
    Option.Rel R o o := by
  cases o with
  | none => exact .none
  | some a => exact .some (hr a)

theorem Referable.Rel.refl {α : Type} {R : α → α → Prop} (hr : ∀ a, R a a) (a : Referable α) :
    Referable.Rel R a a := by
  cases a with
  | reference pointer => exact .reference pointer
  | inline a => exact .inline (hr a)

theorem ParameterEntry.Respells.refl (entry : ParameterEntry) : entry.Respells entry where
  name := rfl
  location := rfl
  required := rfl
  schema := rel_option_refl Schema.Respells.refl entry.schema
  description := rfl

theorem BodyEntry.Respells.refl (entry : BodyEntry) : entry.Respells entry where
  description := rfl
  content := forall₂_keyed_refl
    (fun media => ⟨rel_option_refl Schema.Respells.refl media.schema⟩) entry.content
  required := rfl

theorem Operation.Respells.refl (operation : Operation) : operation.Respells operation where
  operationId := rfl
  summary := rfl
  parameters := rel_option_refl (fun _ => List.forall₂_same.mpr fun entry _ =>
    Referable.Rel.refl ParameterEntry.Respells.refl entry) operation.parameters
  requestBody := rel_option_refl (Referable.Rel.refl BodyEntry.Respells.refl) operation.requestBody
  security := rfl

theorem Components.Respells.refl (components : Components) : components.Respells components where
  schemas := forall₂_keyed_refl Schema.Respells.refl components.schemas
  parameters := forall₂_keyed_refl ParameterEntry.Respells.refl components.parameters
  requestBodies := forall₂_keyed_refl BodyEntry.Respells.refl components.requestBodies
  securitySchemes := rfl

theorem PathItem.Respells.refl (item : PathItem) : item.Respells item :=
  forall₂_keyed_refl Operation.Respells.refl item

theorem keys_eq_of_keyed {α β : Type} {R : α → β → Prop} {entries : List (String × α)}
    {entries' : List (String × β)} (h : List.Forall₂ (Keyed R) entries entries') :
    KeyedList.keys entries = KeyedList.keys entries' := by
  refine map_eq_map_of_forall₂ (h.imp ?_)
  rintro _ _ ⟨key, -⟩
  rfl

theorem rel_lookup_of_keyed {α β : Type} {R : α → β → Prop} {entries : List (String × α)}
    {entries' : List (String × β)} (h : List.Forall₂ (Keyed R) entries entries')
    (name? : Option String) :
    Option.Rel R (name?.bind fun name => KeyedList.find? name entries)
      (name?.bind fun name => KeyedList.find? name entries') := by
  cases name? with
  | none => exact .none
  | some name => exact rel_find?_of_keyed h name

namespace Parameter

theorem ofEntry_eq_of_respells {entry entry' : ParameterEntry} (h : entry.Respells entry') :
    ofEntry entry = ofEntry entry' := by
  unfold ofEntry
  rw [h.name, h.location, h.required]
  rcases none_or_some_of_rel h.schema with ⟨hs, hs'⟩ | ⟨s, t, hs, hs', hst⟩
  · rw [hs, hs']
  · have hr := hst.readsAs
    have hkinds : s.items.map Schema.kind = t.items.map Schema.kind :=
      map_eq_of_rel hr.items fun _ _ _ he => he.kind_eq
    have hliterals : s.items.bind Schema.literals? = t.items.bind Schema.literals? :=
      bind_eq_of_rel hr.items fun _ _ he => he.readsAs.literals
    rw [hs, hs', Option.filter_some, Option.filter_some, hr.kind]
    by_cases hk : t.kind != .unknown
    · simp only [if_pos hk, hst.typeExpr_eq, hr.kind, hkinds, hr.literals, hliterals]
    · simp only [if_neg hk]

variable {doc doc' : Document}

theorem resolve_eq_of_respells (hc : doc.components.Respells doc'.components) (context : String)
    {entry entry' : Referable ParameterEntry}
    (h : Referable.Rel ParameterEntry.Respells entry entry') :
    resolve doc context entry = resolve doc' context entry' := by
  cases h with
  | inline h => rw [resolve, resolve, ofEntry_eq_of_respells h]
  | reference pointer =>
    rw [resolve, resolve]
    rcases none_or_some_of_rel (rel_lookup_of_keyed hc.parameters
      (Reference.componentName? pointer .parameters)) with ⟨hf, hf'⟩ | ⟨_, _, hf, hf', hr⟩
    · rw [hf, hf']
    · simp only [hf, hf', ofEntry_eq_of_respells hr]

end Parameter

namespace RequestBody

variable {doc doc' : Document}

theorem ofEntry_eq_of_respells (hc : doc.components.Respells doc'.components)
    {entry entry' : BodyEntry} (h : entry.Respells entry') :
    ofEntry doc entry = ofEntry doc' entry' := by
  have hschemas : ∀ name, Option.Rel Schema.Respells (doc.schema? name) (doc'.schema? name) :=
    rel_find?_of_keyed hc.schemas
  have hschema : Option.Rel Schema.Respells
      ((KeyedList.find? mediaType entry.content).bind MediaType.schema)
      ((KeyedList.find? mediaType entry'.content).bind MediaType.schema) := by
    rcases none_or_some_of_rel (rel_find?_of_keyed h.content mediaType) with
      ⟨hf, hf'⟩ | ⟨_, _, hf, hf', hr⟩
    · rw [hf, hf']
      exact .none
    · rw [hf, hf']
      exact hr.schema
  unfold ofEntry
  rcases none_or_some_of_rel hschema with ⟨hs, hs'⟩ | ⟨_, _, hs, hs', hst⟩
  · rw [hs, hs']
  · simp only [hs, hs']
    exact flattenFrom_eq_of_respells hschemas _ _ _ hst

theorem extract_eq_of_respells (hc : doc.components.Respells doc'.components)
    {source source' : Referable BodyEntry} (h : Referable.Rel BodyEntry.Respells source source') :
    extract doc source = extract doc' source' := by
  cases h with
  | inline h => rw [extract, extract, ofEntry_eq_of_respells hc h]
  | reference pointer =>
    rw [extract, extract]
    rcases none_or_some_of_rel (rel_lookup_of_keyed hc.requestBodies
      (Reference.componentName? pointer .requestBodies)) with ⟨hf, hf'⟩ | ⟨_, _, hf, hf', hr⟩
    · rw [hf, hf']
    · simp only [hf, hf', ofEntry_eq_of_respells hc hr]

end RequestBody

namespace Document

variable {doc doc' : Document}

theorem requiresBearer_eq_of_respells (hc : doc.components.Respells doc'.components)
    (bearer : String) {operation operation' : Operation} (h : operation.Respells operation') :
    doc.requiresBearer bearer operation = doc'.requiresBearer bearer operation' := by
  have hnames : doc.namesBearer = doc'.namesBearer := by
    funext bearer name
    unfold namesBearer
    rw [hc.securitySchemes]
  rw [requiresBearer, requiresBearer, hnames, h.security]

theorem extractMethod_eq_of_respells (hc : doc.components.Respells doc'.components)
    (bearer path : String) (verb : Verb) {operation operation' : Operation}
    (h : operation.Respells operation') :
    doc.extractMethod bearer path verb operation
      = doc'.extractMethod bearer path verb operation' := by
  have hparameters : Parameter.resolveAll doc (operationContext verb path)
        (operation.parameters.getD [])
      = Parameter.resolveAll doc' (operationContext verb path)
        (operation'.parameters.getD []) := by
    rcases none_or_some_of_rel h.parameters with ⟨hp, hp'⟩ | ⟨_, _, hp, hp', hentries⟩
    · rw [hp, hp']
      rfl
    · rw [hp, hp']
      exact mapM_congr_of_forall₂ (hentries.imp fun _ _ hr =>
        Parameter.resolve_eq_of_respells hc _ hr)
  simp only [extractMethod]
  rw [hparameters, requiresBearer_eq_of_respells hc bearer h]
  rcases none_or_some_of_rel h.requestBody with ⟨hb, hb'⟩ | ⟨_, _, hb, hb', hbody⟩
  · rw [hb, hb']
  · simp only [hb, hb', RequestBody.extract_eq_of_respells hc hbody]

theorem extractRoute_eq_of_respells (hc : doc.components.Respells doc'.components)
    (bearer path : String) {item item' : PathItem}
    (h : item.Respells item') :
    doc.extractRoute bearer path item = doc'.extractRoute bearer path item' := by
  have hmethods : List.Forall₂ (fun entry entry' : Verb × Operation =>
      doc.extractMethod bearer path entry.1 entry.2
        = doc'.extractMethod bearer path entry'.1 entry'.2) item item' := by
    refine h.imp ?_
    rintro _ _ ⟨verb, ho⟩
    exact extractMethod_eq_of_respells hc bearer path verb ho
  simp only [extractRoute, mapM_congr_of_forall₂ hmethods]

/-- A module is extracted from the components and from its own paths. -/
theorem extractModule_eq_of_respells (hc : doc.components.Respells doc'.components)
    (bearer : String) {name : String}
    (hp : List.Forall₂ (Keyed PathItem.Respells) (doc.pathsOf name) (doc'.pathsOf name)) :
    doc.extractModule bearer name = doc'.extractModule bearer name := by
  have hroutes : List.Forall₂ (fun entry entry' : String × PathItem =>
      doc.extractRoute bearer entry.1 entry.2
        = doc'.extractRoute bearer entry'.1 entry'.2) (doc.pathsOf name) (doc'.pathsOf name) := by
    refine hp.imp ?_
    rintro _ _ ⟨path, hi⟩
    exact extractRoute_eq_of_respells hc bearer path hi
  unfold pathsOf at hroutes
  simp only [extractModule, mapM_congr_of_forall₂ hroutes]

theorem extractModules_eq_of_respells (h : doc.Respells doc') (bearer : String) :
    doc.extractModules bearer = doc'.extractModules bearer := by
  have hkeys := keys_eq_of_keyed h.paths
  have hmodules : doc.modules = doc'.modules := by
    rw [modules_eq_foldl, modules_eq_foldl, moduleNames, moduleNames, hkeys]
  have hskipped : doc.pathsWithoutModule = doc'.pathsWithoutModule := by
    rw [pathsWithoutModule, pathsWithoutModule, hkeys]
  have hextract : doc.extractModule bearer = doc'.extractModule bearer := by
    funext name
    refine extractModule_eq_of_respells h.components bearer (List.rel_filter ?_ h.paths)
    rintro _ _ ⟨path, -⟩
    rfl
  rw [extractModules, extractModules, discoverModules, discoverModules, hmodules, hskipped,
    hextract]

end Document

namespace Entity

variable {doc doc' : Document} {policy : ReferencePolicy}

theorem resolves_eq_of_respells (hc : doc.components.Respells doc'.components) :
    resolves doc = resolves doc' := by
  funext reference
  unfold resolves Document.schema?
  rcases none_or_some_of_rel (rel_lookup_of_keyed hc.schemas
    (Reference.componentName? reference .schemas)) with ⟨hf, hf'⟩ | ⟨_, _, hf, hf', -⟩
  · rw [hf, hf']
  · rw [hf, hf', Option.isSome_some, Option.isSome_some]

theorem ofSchemas_eq_of_respells (hd : resolves doc = resolves doc')
    {schemas schemas' : List (String × Schema)}
    (h : List.Forall₂ (Keyed Schema.Respells) schemas schemas') :
    ofSchemas doc policy schemas = ofSchemas doc' policy schemas' := by
  induction h with
  | nil => rfl
  | cons he _ ih =>
    obtain ⟨schemaName, hs⟩ := he
    have hr := hs.readsAs
    unfold ofSchemas
    rw [ih, flattenSchema, flattenSchema, hr.required,
      flattenAll_eq_of_respells hd _ schemaName _ hr.properties]

theorem extract_eq_of_respells (hc : doc.components.Respells doc'.components)
    (policy : ReferencePolicy) : extract doc policy = extract doc' policy := by
  rw [extract, extract, ofSchemas_eq_of_respells (resolves_eq_of_respells hc) hc.schemas]

end Entity

namespace Generation

/-- A respelled document is run to the same error, or to the same files and the same failures, and
the same is reported on the way. -/
theorem run_eq_of_respells {doc doc' : Document} (h : doc.Respells doc') (options : Options) :
    run options doc = run options doc' := by
  rw [run, run, Document.extractModules_eq_of_respells h,
    Entity.extract_eq_of_respells h.components]

/-- One operation with a parameter and a body, and one entity, with these schemas for a number, for
a name that may be null and for a time that may be null. -/
def documentOfTypes (version : String) (number name time : Schema) : Document where
  openapi := version
  info := ⟨"Types", "1", none⟩
  paths := [("/users", [(.post, {
    operationId := none
    summary := none
    parameters := some [.inline ⟨"limit", .query, none, some number, none⟩]
    requestBody := some (.inline ⟨none, [("application/json",
      ⟨some { type := some (.single "object"), properties := [("name", name)] }⟩)], none⟩)
    security := none })])]
  components := { schemas := [("UserEntity", {
    properties := [("age", number),
      ("tags", { type := some (.single "array"), items := some name }), ("seen", time)] })] }

theorem respells_documentOfTypes (version version' : String) {number number' name name' time time' :
      Schema} (hn : number.Respells number') (hs : name.Respells name') (ht : time.Respells time') :
    (documentOfTypes version number name time).Respells
      (documentOfTypes version' number' name' time') where
  info := rfl
  paths := .cons (.intro _ (.cons (.intro _ {
    operationId := rfl
    summary := rfl
    parameters := .some (.cons (.inline ⟨rfl, rfl, rfl, .some hn, rfl⟩) .nil)
    requestBody := .some (.inline ⟨rfl, .cons (.intro _ ⟨.some
      (.node (.same _) (.cons (.intro _ hs) .nil) .none)⟩) .nil, rfl⟩)
    security := rfl }) .nil)) .nil
  components := {
    schemas := .cons (.intro _ (.node (.same _) (.cons (.intro _ hn) (.cons
      (.intro _ (.node (.same _) .nil (.some hs))) (.cons (.intro _ ht) .nil))) .none)) .nil
    parameters := .nil
    requestBodies := .nil
    securitySchemes := rfl }

/-- Types in the spelling of OpenAPI 3.0. -/
def singleTypes : Document :=
  documentOfTypes "3.0.3" { type := some (.single "integer") }
    { type := some (.single "string"), nullable := true }
    { type := some (.single "string"), format := some "date-time", nullable := true }

/-- The same types in the spelling of OpenAPI 3.1. -/
def listedTypes : Document :=
  documentOfTypes "3.1.0" { type := some (.several ["integer"]) }
    { type := some (.several ["string", "null"]) }
    { type := some (.several ["null", "string"]), format := some "date-time" }

theorem run_eq_of_respells_singleTypes : singleTypes.Respells listedTypes ∧
    run {} singleTypes = run {} listedTypes ∧
    (run {} listedTypes).outcome.map (fun output => (output.files.length, output.failures))
      = .ok (7, []) := by
  have h : singleTypes.Respells listedTypes := respells_documentOfTypes _ _
    (.node (.listed rfl (by decide)) .nil .none)
    (.node (.nullLast rfl (by decide) rfl false) .nil .none)
    (.node (.nullFirst rfl (by decide) rfl false) .nil .none)
  exact ⟨h, run_eq_of_respells h {}, by decide +kernel⟩

end Generation
end OpenApiGen
