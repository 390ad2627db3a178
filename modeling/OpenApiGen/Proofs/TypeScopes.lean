import OpenApiGen.Proofs.DeclarationOrder
import OpenApiGen.Proofs.InferredTypes

/-!
# Services are well scoped

A type in a service refers to other types by their names. In the types of bodies these names are
those of objects, inside or around the place where the name stands, and each of them is declared.
-/

namespace OpenApiGen

/-- The name of another type stands in a type. -/
inductive TypeExpr.Names : TypeExpr → String → Prop
  | named {name} : Names (.named name) name
  | item {item name} (h : Names item name) : Names (.array item) name
  | nullable {type name} (h : Names type name) : Names (.nullable type) name
  | field {fields field name} (hf : field ∈ fields) (h : Names field.2.2 name) :
      Names (.record fields) name

theorem TypeExpr.not_names_ofKind (kind : SchemaKind) (format : Option String) (null : Bool)
    (name : String) : ¬((ofKind kind format).orNull null).Names name := by
  have hkind : ¬(ofKind kind format).Names name := by
    unfold ofKind
    intro h
    cases kind with
    | string =>
      dsimp only at h
      split at h <;> cases h
    | array =>
      cases h with
      | item h => cases h
    | _ => cases h
  intro h
  unfold orNull at h
  split at h
  · cases h with
    | nullable h => exact hkind h
  · exact hkind h

/-- Only references and arrays have names in their types. -/
theorem Schema.not_names_typeExpr {schema : Schema} (hr : schema.reference = none)
    (ha : schema.kind ≠ .array) (name : String) : ¬schema.typeExpr.Names name := by
  cases hl : schema.literals? with
  | some values =>
    rw [typeExpr_of_literals hr hl]
    exact nofun
  | none =>
    rw [typeExpr_of_kind hr hl ha]
    exact TypeExpr.not_names_ofKind _ _ _ name

namespace RequestBody

theorem names_recordType_iff {fields : List (String × Bool × TypeExpr)} {name : String} :
    (recordType fields).Names name ↔ ∃ field ∈ fields, field.2.2.Names name := by
  unfold recordType
  constructor
  · intro h
    split at h
    · cases h
    · cases h with
      | field hf h => exact ⟨_, hf, h⟩
  · rintro ⟨field, hf, h⟩
    rw [if_neg (by simpa using List.ne_nil_of_mem hf)]
    exact .field hf h

theorem names_outlines_iff {required : List String} {properties : List (String × RequestBody)}
    {name : String} : (recordType (outlines required properties)).Names name ↔
      ∃ property ∈ properties, (outline property.2).Names name := by
  rw [names_recordType_iff, outlines_eq_map]
  simp only [List.mem_map, exists_exists_and_eq_and]

/-- The types of the leaves have no names in them. -/
inductive PlainLeaves : RequestBody → Prop
  | leaf {type kind literals nullable description} (h : ∀ name, ¬type.Names name) :
      PlainLeaves (.leaf type kind literals nullable description)
  | cut {name nullable description} : PlainLeaves (.cut name nullable description)
  | array {item} (h : PlainLeaves item) : PlainLeaves (.array item)
  | object {origin required properties} (h : ∀ property ∈ properties, PlainLeaves property.2) :
      PlainLeaves (.object origin required properties)

theorem PlainLeaves.within {part body : RequestBody} (h : PlainLeaves body)
    (hw : Within part body) : PlainLeaves part := by
  induction hw with
  | self => exact h
  | item _ ih =>
    cases h with
    | array h => exact ih h
  | property hp _ ih =>
    cases h with
    | object h => exact ih (h _ hp)

theorem plainLeaves_untyped (description : Option String) : PlainLeaves (untyped description) :=
  .leaf nofun

/-- Whatever a schema refers to is opened, cut or given up, so that no leaf has a name in its
type. -/
theorem Outcome.plainLeaves {doc : Document} {lossy : Prop} {depth : Nat} {enclosing : List String}
    {origin : Option Origin} {schema : Schema} {result : Option RequestBody}
    (h : Outcome doc lossy depth enclosing origin schema result) (description : Option String) :
    PlainLeaves (result.getD (untyped description)) := by
  induction h generalizing description with
  | truncated => exact plainLeaves_untyped _
  | foreign => exact plainLeaves_untyped _
  | missing => exact plainLeaves_untyped _
  | cut => exact .cut
  | looped => exact plainLeaves_untyped _
  | follow hd hl hn _ ih => exact ih description
  | object hd hk resultOf h ih =>
    refine .object fun property hp => ?_
    obtain ⟨inner, hmem, rfl⟩ := List.mem_map.mp hp
    exact ih inner hmem inner.2.description
  | itemless => exact .array (plainLeaves_untyped none)
  | array hd hk hi _ ih => exact .array (ih none)
  | leaf hd hr ho ha => exact .leaf (Schema.not_names_typeExpr hr ha)

/-- The names in the type of a body are the identifiers of the objects that it calls. -/
theorem PlainLeaves.names_outline_iff {body : RequestBody} (h : PlainLeaves body) (name : String) :
    (outline body).Names name ↔
      ∃ called, Calls body called ∧ Naming.typeIdentifier called = name := by
  induction h with
  | leaf h =>
    rw [outline]
    refine iff_of_false (h name) ?_
    rintro ⟨called, hc, -⟩
    cases hc
  | @cut other =>
    rw [outline]
    constructor
    · intro h
      cases h
      exact ⟨other, .cut, rfl⟩
    · rintro ⟨called, hc, rfl⟩
      cases hc
      exact .named
  | array _ ih =>
    rw [outline]
    constructor
    · intro h
      cases h with
      | item h =>
        obtain ⟨called, hc, rfl⟩ := ih.mp h
        exact ⟨called, .item hc, rfl⟩
    · rintro ⟨called, hc, rfl⟩
      cases hc with
      | item hc => exact .item (ih.mpr ⟨called, hc, rfl⟩)
  | @object origin required properties _ ih =>
    cases origin with
    | none =>
      rw [outline, names_outlines_iff]
      constructor
      · rintro ⟨property, hp, h⟩
        obtain ⟨called, hc, rfl⟩ := (ih property hp).mp h
        exact ⟨called, .property hp hc, rfl⟩
      · rintro ⟨called, hc, rfl⟩
        cases hc with
        | property hp hc => exact ⟨_, hp, (ih _ hp).mpr ⟨called, hc, rfl⟩⟩
    | some reached =>
      rw [outline]
      constructor
      · intro h
        cases h
        exact ⟨reached.name, .named, rfl⟩
      · rintro ⟨called, hc, rfl⟩
        cases hc
        exact .named

end RequestBody

open RequestBody

namespace ServiceFunction

/-- The body is passed on only where there is one. -/
theorem exists_body_of_mem_arguments {handler : Handler} {type : String}
    (h : (RequestPart.body, type) ∈ (outlined handler).arguments) :
    ∃ body, handler.method.body = some body ∧
      type = (bodyNaming handler body body.outline).1 := by
  unfold outlined ofBodyType at h
  cases hb : handler.method.body with
  | none => simp [hb] at h
  | some body => exact ⟨body, rfl, by simpa [hb] using h⟩

theorem bodyNaming_of_isNamedObject (handler : Handler) {body : RequestBody}
    (h : body.isNamedObject) : ∃ name, Calls body name ∧
      (bodyNaming handler body body.outline).1 = Naming.typeIdentifier name := by
  match body with
  | .object (some origin) required properties =>
    refine ⟨origin.name, .named, ?_⟩
    unfold bodyNaming
    rw [if_pos h, outline, TypeExpr.text]

theorem bodyNaming_of_not_isNamedObject (handler : Handler) {body : RequestBody}
    (h : body.isNamedObject = false) :
    (bodyNaming handler body body.outline).1 = handler.typeName ++ "Body" := by
  unfold bodyNaming
  rw [h]
  rfl

end ServiceFunction

namespace ModuleService

/-- The names in the type are those of declarations in the file. -/
def Scopes (service : ModuleService) (type : TypeExpr) : Prop :=
  ∀ name, type.Names name → name ∈ Declaration.identifiers service.declarations

/-- Declarations refer to declarations, a body is passed on under a name that stands for a type in
the file, which refers to declarations too, and no two types of the file have one name. -/
structure WellScoped (service : ModuleService) : Prop where
  declarations : ∀ d ∈ service.declarations, service.Scopes d.type
  bodies : ∀ function ∈ service.functions, ∀ name,
    (RequestPart.body, name) ∈ function.arguments →
      ∃ type, KeyedList.find? name service.types = some type ∧ service.Scopes type
  distinct : (KeyedList.keys service.types).Nodup

variable {doc : Document} {lossy : Prop} {handlers : List Handler} {service : ModuleService}

theorem mem_identifiers_of_call (hf : Handler.Flattened doc lossy handlers)
    (hs : ofHandlers handlers = .ok service) {name : String} (h : Handler.Call handlers name) :
    Naming.typeIdentifier name ∈ Declaration.identifiers service.declarations := by
  obtain ⟨-, hextends⟩ := extends_of_flattened hf hs
  -- nothing encloses a whole body, so that nothing is left to be declared
  exact (hextends.called name h).resolve_right (by simp)

theorem plainLeaves_of_part (hf : Handler.Flattened doc lossy handlers) {part : RequestBody}
    (hp : Handler.Part handlers part) : PlainLeaves part := by
  obtain ⟨handler, hh, body, hb, hw⟩ := hp
  obtain ⟨schema, ho⟩ := hf handler hh body hb
  have hbody : PlainLeaves body := ho.plainLeaves none
  exact hbody.within hw

theorem scopes_of_declared (hf : Handler.Flattened doc lossy handlers)
    (hs : ofHandlers handlers = .ok service) {d : Declaration} (hd : d ∈ service.declarations) :
    service.Scopes d.type := by
  obtain ⟨-, hextends⟩ := extends_of_flattened hf hs
  rcases hextends.made d hd with hd' | ⟨origin, required, properties, hpart, rfl, hcalls⟩
  · cases hd'
  · intro name hname
    obtain ⟨property, hp, hname⟩ := names_outlines_iff.mp hname
    have hplain : PlainLeaves property.2 :=
      (plainLeaves_of_part hf hpart).within (.property hp .self)
    obtain ⟨called, hc, rfl⟩ := (hplain.names_outline_iff name).mp hname
    exact (hcalls property hp called hc).resolve_right (by simp)

theorem scopes_outline (hf : Handler.Flattened doc lossy handlers)
    (hs : ofHandlers handlers = .ok service) {handler : Handler} (hh : handler ∈ handlers)
    {body : RequestBody} (hb : handler.method.body = some body) : service.Scopes body.outline := by
  have hplain := plainLeaves_of_part hf ⟨handler, hh, body, hb, .self⟩
  intro name hname
  obtain ⟨called, hc, rfl⟩ := (hplain.names_outline_iff name).mp hname
  exact mem_identifiers_of_call hf hs ⟨handler, hh, body, hb, hc⟩

/-- Where a module gets a service, the types of its bodies are well scoped. What they call by name
is declared, and the names of declarations and aliases are all the names of types that there are. -/
theorem wellScoped_of_ofHandlers {bearer : String} {modules : List ModuleRoutes}
    (hmodules : (doc.extractModules bearer).outcome = .ok modules) {module : ModuleRoutes}
    (hm : module ∈ modules) (hhandlers : Handler.ofModule module = .ok handlers)
    (hs : ofHandlers handlers = .ok service) :
    service.text = Source.text service.source ∧ service.WellScoped ∧
      (∀ name, Handler.Call handlers name →
        Naming.typeIdentifier name ∈ Declaration.identifiers service.declarations) ∧
      KeyedList.keys service.types =
        Declaration.identifiers service.declarations ++ handlers.flatMap Handler.aliasNames := by
  have hf : Handler.Flattened doc True handlers :=
    Handler.flattened_of_ofModule (Document.extractModule_of_mem hmodules hm) hhandlers
      fun _ _ _ => trivial
  obtain ⟨hfunctions, -⟩ := extends_of_flattened hf hs
  refine ⟨service.text_eq_source,
    ⟨fun d => scopes_of_declared hf hs, ?_, nodup_types hhandlers hf hs⟩,
    fun name => mem_identifiers_of_call hf hs, keys_types hs⟩
  intro function hfunction name hname
  have hmem := hfunction
  rw [hfunctions] at hmem
  obtain ⟨handler, hh, rfl⟩ := List.mem_map.mp hmem
  obtain ⟨body, hb, rfl⟩ := ServiceFunction.exists_body_of_mem_arguments hname
  cases hn : body.isNamedObject with
  | true =>
    obtain ⟨called, hc, heq⟩ := ServiceFunction.bodyNaming_of_isNamedObject handler hn
    have hdeclared := mem_identifiers_of_call hf hs ⟨handler, hh, body, hb, hc⟩
    obtain ⟨d, hd, hidentifier⟩ := List.mem_map.mp hdeclared
    rw [heq, ← hidentifier]
    exact ⟨d.type, find?_types_of_declared hhandlers hf hs hd, scopes_of_declared hf hs hd⟩
  | false =>
    have halias := ServiceFunction.bodyAlias_mem_outlined hb hn
    rw [ServiceFunction.bodyNaming_of_not_isNamedObject handler hn]
    exact ⟨body.outline, find?_types_of_alias hhandlers hf hs hfunction halias,
      scopes_outline hf hs hh hb⟩

theorem wellScoped_of_ofHandlers_nodes :
    (nodesDocument.extractModules "bearerAuth").outcome = .ok [nodesModule] ∧
      nodesModule ∈ [nodesModule] ∧ Handler.ofModule nodesModule = .ok nodesHandlers ∧
      ∃ service, ofHandlers nodesHandlers = .ok service ∧
        KeyedList.keys service.types = ["Node", "PutNodesBody"] ∧ service.WellScoped :=
  ⟨extractModules_nodes, List.mem_singleton.mpr rfl, ofModule_nodes, _, ofHandlers_nodes, rfl,
    (wellScoped_of_ofHandlers extractModules_nodes (List.mem_singleton.mpr rfl) ofModule_nodes
      ofHandlers_nodes).2.1⟩

end ModuleService
end OpenApiGen
