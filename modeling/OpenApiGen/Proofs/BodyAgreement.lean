import OpenApiGen.Proofs.InferredTypes
import OpenApiGen.Proofs.ServiceTypes

/-!
# The type of a body in the service, and the one that its schema infers

Both are read off the same body. But the service calls objects by the names of their schemas, and what
it declares for a name may come from another place, in which other parts of the schema were cut.
-/

namespace OpenApiGen

/-- One of the forms that a value may have at the end of a type. -/
inductive Alternative
  | string
  | number
  | boolean
  | object
  | date
  | literal (value : Json)

namespace TypeExpr

def isAny : TypeExpr → Bool
  | any => true
  | nullable type => isAny type
  | _ => false

/-- The alternatives of a type that has no parts. -/
def alternatives? : TypeExpr → Option (List Alternative)
  | string => some [.string]
  | number => some [.number]
  | boolean => some [.boolean]
  | object => some [.object]
  | date => some [.date]
  | literals values => some (values.map .literal)
  | nullable type => (alternatives? type).map (· ++ [.literal .null])
  | any | named _ | array _ | record _ => none

end TypeExpr

mutual

/-- The type on the left, with the names in it expanded to these types, agrees with the one on the
right. A type that says nothing agrees with every other one. Where there are enumerations that may be
null without listing it, only the right one says so. -/
inductive Agrees (unlisted : Prop) (types : List (String × TypeExpr)) : TypeExpr → TypeExpr → Prop
  | unsaid {t u} (h : t.isAny) : Agrees unlisted types t u
  | unchecked {t u} (h : u.isAny) : Agrees unlisted types t u
  | named {name t u} (ht : KeyedList.find? name types = some t) (h : Agrees unlisted types t u) :
      Agrees unlisted types (.named name) u
  | leaf {t u alternatives alternatives'} (ht : t.alternatives? = some alternatives)
      (hu : u.alternatives? = some alternatives')
      (h : ∀ alternative, alternative ∈ alternatives ↔ alternative ∈ alternatives') :
      Agrees unlisted types t u
  | enumeration {values} (h : unlisted) :
      Agrees unlisted types (.literals values) (.nullable (.literals values))
  | array {t u} (h : Agrees unlisted types t u) : Agrees unlisted types (.array t) (.array u)
  | record {fields fields'} (h : FieldsAgree unlisted types fields fields') :
      Agrees unlisted types (.record fields) (.record fields')

/-- The same keys in the same order, the same of them optional. -/
inductive FieldsAgree (unlisted : Prop) (types : List (String × TypeExpr)) :
    List (String × Bool × TypeExpr) → List (String × Bool × TypeExpr) → Prop
  | nil : FieldsAgree unlisted types [] []
  | cons {key optional t u fields fields'} (h : Agrees unlisted types t u)
      (hrest : FieldsAgree unlisted types fields fields') :
      FieldsAgree unlisted types ((key, optional, t) :: fields) ((key, optional, u) :: fields')

end

variable {unlisted : Prop} {types : List (String × TypeExpr)}

theorem Agrees.of_leaf {t : TypeExpr} (h : t.isAny ∨ t.alternatives?.isSome) :
    Agrees unlisted types t t := by
  rcases h with h | h
  · exact .unsaid h
  · obtain ⟨alternatives, ha⟩ := Option.isSome_iff_exists.mp h
    exact .leaf ha ha fun _ => Iff.rfl

theorem Agrees.untyped {u : TypeExpr} (description : Option String) :
    Agrees unlisted types (RequestBody.outline (RequestBody.untyped description)) u := by
  refine .unsaid ?_
  rw [RequestBody.untyped, RequestBody.outline]
  rfl

theorem Agrees.recordType {fields fields' : List (String × Bool × TypeExpr)}
    (h : FieldsAgree unlisted types fields fields') :
    Agrees unlisted types (RequestBody.recordType fields) (RequestBody.recordType fields') := by
  cases h with
  | nil => exact .of_leaf (.inr rfl)
  | cons h hrest => exact .record (.cons h hrest)

namespace ZodSchema

theorem isOptional_orNull {schema : ZodSchema} (h : schema.isOptional = false) (null : Bool) :
    (schema.orNull null).isOptional = false := by
  cases null with
  | false => exact h
  | true => rfl

theorem isOptional_ofLeaf (type : TypeExpr) (kind : SchemaKind) (literals : List Json) :
    (ofLeaf type kind literals).isOptional = false := by
  unfold ofLeaf ofLiterals
  split
  · split
    · rfl
    · split <;> rfl
  · split
    · split <;> rfl
    all_goals rfl

theorem isOptional_ofBody (body : RequestBody) : (ofBody body).isOptional = false := by
  cases body with
  | leaf type kind literals nullable =>
    rw [ofBody]
    exact isOptional_orNull (isOptional_ofLeaf type kind literals) nullable
  | cut name nullable =>
    rw [ofBody]
    exact isOptional_orNull rfl nullable
  | object => rw [ofBody]; rfl
  | array => rw [ofBody]; rfl

theorem isOptional_orOptional {schema : ZodSchema} (h : schema.isOptional = false)
    (required : Bool) : (schema.orOptional required).isOptional = !required := by
  cases required with
  | false => rfl
  | true => exact h

end ZodSchema

namespace Schema

variable {schema : Schema}

theorem inferred_ofLeaf_of_literals {values : List Json} (hl : schema.literals? = some values) :
    (ZodSchema.ofLeaf schema.typeExpr schema.kind (schema.literals?.getD [])).inferred
      = .literals values := by
  have hne := ne_nil_of_literals hl
  unfold ZodSchema.ofLeaf
  rw [hl, Option.getD_some, if_pos (by simpa using hne), ZodSchema.inferred_ofLiterals]

/-- Without literals, a leaf has the type that its schema infers. -/
theorem inferred_ofLeaf_of_kind (hr : schema.reference = none) (ho : schema.kind ≠ .object)
    (ha : schema.kind ≠ .array) (hl : schema.literals? = none) :
    (ZodSchema.ofLeaf schema.typeExpr schema.kind (schema.literals?.getD [])).inferred
      = TypeExpr.ofKind schema.kind schema.format := by
  have hk := kind_ne_reference hr
  have hdate : schema.typeExpr.isDate = (TypeExpr.ofKind schema.kind schema.format).isDate := by
    rw [typeExpr_of_kind hr hl ha]
    cases schema.isNullable <;> rfl
  rw [hl, Option.getD_none]
  unfold ZodSchema.ofLeaf
  rw [if_neg (by simp), hdate]
  cases hkind : schema.kind with
  | string =>
    unfold TypeExpr.ofKind
    cases TypeExpr.isDateFormat schema.format <;> rfl
  | number | integer | boolean | unknown => rfl
  | object => exact absurd hkind ho
  | array => exact absurd hkind ha
  | reference => exact absurd hkind hk

end Schema

namespace Agrees

theorem orNull_of_kind (kind : SchemaKind) (format : Option String) (null : Bool)
    (ha : kind ≠ .array) :
    Agrees unlisted types ((TypeExpr.ofKind kind format).orNull null)
      ((TypeExpr.ofKind kind format).orNull null) := by
  refine .of_leaf ?_
  unfold TypeExpr.ofKind
  cases kind with
  | array => exact absurd rfl ha
  | string => cases TypeExpr.isDateFormat format <;> cases null <;> exact .inr rfl
  | number | integer | boolean | object => cases null <;> exact .inr rfl
  | reference | unknown => cases null <;> exact .inl rfl

/-- In the service, an enumeration is never null unless it lists null. -/
theorem orNull_of_literals {values : List Json} {null : Bool}
    (h : null → .null ∉ values → unlisted) :
    Agrees unlisted types (.literals values) ((TypeExpr.literals values).orNull null) := by
  cases null with
  | false => exact .of_leaf (.inr rfl)
  | true =>
    by_cases hv : .null ∈ values
    · refine .leaf rfl rfl fun alternative => ?_
      have hnull : Alternative.literal .null ∈ values.map .literal :=
        List.mem_map.mpr ⟨_, hv, rfl⟩
      rw [List.mem_append, List.mem_singleton]
      refine ⟨.inl, fun ha => ?_⟩
      rcases ha with ha | rfl
      · exact ha
      · exact hnull
    · exact .enumeration (h rfl hv)

theorem ofLeaf {schema : Schema} (hr : schema.reference = none) (ho : schema.kind ≠ .object)
    (ha : schema.kind ≠ .array)
    (hnull : ∀ values, schema.literals? = some values → schema.isNullable → .null ∉ values →
      unlisted) :
    Agrees unlisted types (RequestBody.outline (RequestBody.ofLeaf schema))
      (ZodSchema.ofBody (RequestBody.ofLeaf schema)).inferred := by
  unfold RequestBody.ofLeaf
  rw [RequestBody.outline, ZodSchema.ofBody, ZodSchema.inferred_orNull]
  cases hl : schema.literals? with
  | some values =>
    rw [← hl, Schema.inferred_ofLeaf_of_literals hl, Schema.typeExpr_of_literals hr hl]
    exact .orNull_of_literals (hnull values hl)
  | none =>
    rw [← hl, Schema.inferred_ofLeaf_of_kind hr ho ha hl, Schema.typeExpr_of_kind hr hl ha]
    exact .orNull_of_kind _ _ _ ha

end Agrees

/-- Every enumeration in the bodies that may be null has null among its literals. -/
def Handler.NullsListed (handlers : List Handler) : Prop :=
  ∀ type kind literals description, Part handlers (.leaf type kind literals true description) →
    literals ≠ [] → .null ∈ literals

namespace ModuleService

open RequestBody

variable {doc : Document} {module : ModuleRoutes} {handlers : List Handler}
  {service : ModuleService}

theorem agrees_leaf (hnulls : ¬Handler.NullsListed handlers → unlisted) {schema : Schema}
    (hr : schema.reference = none) (ho : schema.kind ≠ .object) (ha : schema.kind ≠ .array)
    (hp : Handler.Part handlers (ofLeaf schema)) :
    Agrees unlisted types (outline (ofLeaf schema)) (ZodSchema.ofBody (ofLeaf schema)).inferred := by
  refine .ofLeaf hr ho ha fun values hl hnull hv => hnulls fun hlisted => hv ?_
  unfold RequestBody.ofLeaf at hp
  rw [hl, hnull, Option.getD_some] at hp
  exact hlisted _ _ _ _ hp (Schema.ne_nil_of_literals hl)

theorem fieldsAgree_nil (required : List String) :
    FieldsAgree unlisted types (outlines required [])
      (ZodSchema.inferredFields (ZodSchema.ofProperties required [])) := by
  rw [outlines, ZodSchema.ofProperties, ZodSchema.inferredFields]
  exact .nil

theorem fieldsAgree_cons {required : List String} {name : String} {a b : RequestBody}
    {left right : List (String × RequestBody)}
    (h : Agrees unlisted types (outline a) (ZodSchema.ofBody b).inferred)
    (hrest : FieldsAgree unlisted types (outlines required left)
      (ZodSchema.inferredFields (ZodSchema.ofProperties required right))) :
    FieldsAgree unlisted types (outlines required ((name, a) :: left))
      (ZodSchema.inferredFields (ZodSchema.ofProperties required ((name, b) :: right))) := by
  rw [outlines, ZodSchema.ofProperties, ZodSchema.inferredFields, ZodSchema.inferred_orOptional,
    ZodSchema.isOptional_orOptional (ZodSchema.isOptional_ofBody b)]
  exact .cons h hrest

/-- A known name stands for properties like those of every object of its schema, and they call known
names only. -/
def Expands (handlers : List Handler) (types : List (String × TypeExpr)) (known : String → Prop) :
    Prop :=
  ∀ origin required properties, Handler.Part handlers (.object (some origin) required properties) →
    known origin.name → ∃ left,
      KeyedList.find? (Naming.typeIdentifier origin.name) types
        = some (recordType (outlines required left)) ∧
      AlikeProperties True left properties ∧
      ∀ property ∈ left, ∀ name, Calls property.2 name → known name

mutual

/-- By recursion on the body that is checked. Where the service calls an object by its name, it goes
on with the declared one, whose properties are those of the same schema in another place. -/
theorem agrees_of_alike {known : String → Prop} (hexpands : Expands handlers types known)
    (hnulls : ¬Handler.NullsListed handlers → unlisted) : (b : RequestBody) →
    Handler.Part handlers b → ∀ a, Alike True a b → (∀ name, Calls a name → known name) →
    Agrees unlisted types (outline a) (ZodSchema.ofBody b).inferred
  | .leaf type kind literals nullable description, hp, a, h, _ => by
    cases h with
    | lost => exact .untyped _
    | lostRight => exact .unchecked (by rw [ZodSchema.ofBody]; rfl)
    | nowhere => exact .untyped _
    | leaf hr ho ha => exact agrees_leaf hnulls hr ho ha hp
    | called ha hb => cases hb
  | .cut name nullable description, _, _, _, _ => by
    refine .unchecked ?_
    rw [ZodSchema.ofBody, ZodSchema.inferred_orNull]
    cases nullable <;> rfl
  | .array item, hp, a, h, hknown => by
    rcases h.of_array with ⟨-, description, rfl⟩ | ⟨other, rfl, halike⟩
    · exact .untyped description
    · have hitem := agrees_of_alike hexpands hnulls item (hp.inner (.item .self)) other halike
        fun name hc => hknown name (.item hc)
      rw [outline, ZodSchema.ofBody, ZodSchema.inferred]
      exact .array hitem
  | .object none required properties, hp, a, h, hknown => by
    rcases h.of_inline with ⟨-, description, rfl⟩ | ⟨left, rfl, halike⟩
    · exact .untyped description
    · have hfields := fieldsAgree_of_alike hexpands hnulls required properties
        (fun property hm => hp.inner (within_property hm)) left halike
        fun property hm name hc => hknown name (.property hm hc)
      rw [outline, ZodSchema.ofBody, ZodSchema.inferred]
      exact .recordType hfields
  | .object (some origin) required properties, hp, a, h, hknown => by
    rcases h.of_named with ⟨-, description, rfl⟩ | hcalled
    · exact .untyped description
    · obtain ⟨left, hfind, halike, hinside⟩ :=
        hexpands origin required properties hp (hknown origin.name (calls_of_called? hcalled))
      have hfields := fieldsAgree_of_alike hexpands hnulls required properties
        (fun property hm => hp.inner (within_property hm)) left halike hinside
      rw [outline_of_called? hcalled, ZodSchema.ofBody, ZodSchema.inferred]
      exact .named hfind (.recordType hfields)

theorem fieldsAgree_of_alike {known : String → Prop} (hexpands : Expands handlers types known)
    (hnulls : ¬Handler.NullsListed handlers → unlisted) (required : List String) :
    (right : List (String × RequestBody)) →
    (∀ property ∈ right, Handler.Part handlers property.2) → ∀ left,
    AlikeProperties True left right →
    (∀ property ∈ left, ∀ name, Calls property.2 name → known name) →
    FieldsAgree unlisted types (outlines required left)
      (ZodSchema.inferredFields (ZodSchema.ofProperties required right))
  | [], _, left, h, _ => by
    obtain rfl := List.forall₂_nil_right_iff.mp h
    exact fieldsAgree_nil required
  | (name, b) :: rest, hp, left, h, hknown => by
    obtain ⟨⟨key, a⟩, others, ⟨rfl, ha⟩, hrest, rfl⟩ := List.forall₂_cons_right_iff.mp h
    have hfirst := agrees_of_alike hexpands hnulls b (hp _ (List.mem_cons_self ..)) a ha
      (hknown _ (List.mem_cons_self ..))
    have hothers := fieldsAgree_of_alike hexpands hnulls required rest
      (fun p hm => hp p (List.mem_cons_of_mem _ hm)) others hrest
      fun p hm => hknown p (List.mem_cons_of_mem _ hm)
    exact fieldsAgree_cons hfirst hothers

end

/-- The name is that of an object in the bodies, and the service declares its identifier. -/
def Known (handlers : List Handler) (service : ModuleService) (name : String) : Prop :=
  Handler.Mention handlers name ∧
    Naming.typeIdentifier name ∈ Declaration.identifiers service.declarations

theorem expands_of_ofHandlers (hhandlers : Handler.ofModule module = .ok handlers)
    (hf : Handler.Flattened doc True handlers) (hdistinct : Handler.DistinctIdentifiers handlers)
    (hservice : ofHandlers handlers = .ok service) :
    Expands handlers service.types (Known handlers service) := by
  rintro origin required properties hp ⟨hmention, hi⟩
  obtain ⟨declared, required', left, hname, hpart, hd, hcalls⟩ :=
    exists_object_of_declared hf hdistinct hservice hmention hi
  have hoccurrence := hf.occurrence hpart
  rw [hname] at hoccurrence
  obtain ⟨rfl, halike⟩ := hoccurrence.alike (hf.occurrence hp)
  have hfind := find?_types_of_declared hhandlers hf hservice hd
  refine ⟨left, ?_, halike, fun property hm name hc => ?_⟩
  · rw [← hname]
    exact hfind
  · exact ⟨hf.mention_of_calls (hpart.inner (within_property hm)) hc, hcalls property hm name hc⟩

theorem outline_of_isNamedObject {body : RequestBody} (h : body.isNamedObject) :
    body.outline = .named (body.outline.text 0) := by
  unfold isNamedObject at h
  split at h
  · rw [outline]
    rfl
  · cases h

/-- Where schemas have identifiers of their own, the service gives the argument for the body a type
that agrees with the one inferred, but for enumerations that may be null without listing it. -/
theorem body_types_agree {bearer : String} {modules : List ModuleRoutes}
    (hmodules : (doc.extractModules bearer).outcome = .ok modules) (hmodule : module ∈ modules)
    (hhandlers : Handler.ofModule module = .ok handlers)
    (hservice : ofHandlers handlers = .ok service)
    (hdistinct : Handler.DistinctIdentifiers handlers)
    (hnulls : ¬Handler.NullsListed handlers → unlisted) :
    List.Forall₂ (fun handler function => ∀ body, handler.method.body = some body →
        ∃ name, function.arguments.lookup .body = some name ∧
          Agrees unlisted service.types (.named name) (ZodSchema.ofBody body).inferred)
      handlers service.functions := by
  have hf : Handler.Flattened doc True handlers :=
    Handler.flattened_of_ofModule (Document.extractModule_of_mem hmodules hmodule) hhandlers
      fun _ _ _ => trivial
  obtain ⟨hfunctions, hextends⟩ := extends_of_flattened hf hservice
  rw [hfunctions, List.forall₂_map_right_iff, List.forall₂_same]
  intro handler hh body hb
  refine ⟨_, ServiceFunction.lookup_body_outlined hb, ?_⟩
  have hpart : Handler.Part handlers body := ⟨handler, hh, body, hb, .self⟩
  have hknown : ∀ name, Calls body name → Known handlers service name := by
    intro name hc
    have hdeclared := hextends.called name ⟨handler, hh, body, hb, hc⟩
    exact ⟨hf.mention_of_calls hpart hc, hdeclared.resolve_right (by simp)⟩
  obtain ⟨schema, ho⟩ := hf handler hh body hb
  have halike : Alike True ((some body).getD (untyped none)) ((some body).getD (untyped none)) :=
    ho.alike ho rfl
  have hexpands := expands_of_ofHandlers hhandlers hf hdistinct hservice
  have hagrees := agrees_of_alike hexpands hnulls body hpart body halike hknown
  unfold ServiceFunction.bodyNaming
  cases hn : body.isNamedObject with
  | true =>
    rw [if_pos rfl, ← outline_of_isNamedObject hn]
    exact hagrees
  | false =>
    have hfunction : ServiceFunction.outlined handler ∈ service.functions := by
      rw [hfunctions]
      exact List.mem_map.mpr ⟨handler, hh, rfl⟩
    have halias := find?_types_of_alias hhandlers hf hservice hfunction
      (ServiceFunction.bodyAlias_mem_outlined hb hn)
    exact .named halias hagrees

theorem nullsListed_nodes : Handler.NullsListed nodesHandlers := by
  intro type kind literals description hp
  have hpart := part_nodes hp
  simp [nodesBody, nodeBody, parts, partsOfAll] at hpart

theorem body_types_agree_nodes :
    (nodesDocument.extractModules "bearerAuth").outcome = .ok [nodesModule] ∧
      Handler.DistinctIdentifiers nodesHandlers ∧ Handler.NullsListed nodesHandlers ∧
      ∃ service, ofHandlers nodesHandlers = .ok service ∧
        List.Forall₂ (fun handler function => ∀ body, handler.method.body = some body →
            ∃ name, function.arguments.lookup .body = some name ∧
              Agrees False service.types (.named name) (ZodSchema.ofBody body).inferred)
          nodesHandlers service.functions := by
  refine ⟨extractModules_nodes, distinctIdentifiers_nodes, nullsListed_nodes, _, ofHandlers_nodes, ?_⟩
  exact body_types_agree extractModules_nodes (List.mem_singleton.mpr rfl) ofModule_nodes
    ofHandlers_nodes distinctIdentifiers_nodes fun h => h nullsListed_nodes

/-- A state, or null. -/
def stateSchema : Schema :=
  { type := some (.single "string"), nullable := true, enumeration := some [.string "open"] }

def stateBody : RequestBody := .leaf (.literals [.string "open"]) .string [.string "open"] true none

def statesDocument : Document := .ofBodies "/states" [(.post, stateSchema)] []

def statesModule : ModuleRoutes :=
  ⟨"states", [⟨"/states", "/states", [⟨.post, [], some stateBody, false⟩]⟩]⟩

def statesService : ModuleService :=
  ⟨[], [⟨"postStates", [⟨"PostStatesBody", .literals [.string "open"]⟩], [(.body, "PostStatesBody")],
    "POST /states"⟩], ["postStates"]⟩

/-- What the service takes is a state, where null is let through. -/
theorem nullable_enumeration_disagrees :
    (statesDocument.extractModules "bearerAuth").outcome = .ok [statesModule] ∧
    ∃ handlers, Handler.ofModule statesModule = .ok handlers ∧
      ofHandlers handlers = .ok statesService ∧
      ∃ handler ∈ handlers, handler.method.body = some stateBody ∧
        ¬Agrees False statesService.types (.named "PostStatesBody")
          (ZodSchema.ofBody stateBody).inferred := by
  have hextract : (statesDocument.extractModules "bearerAuth").outcome = .ok [statesModule] :=
    Document.extractModules_ofBodies "/states" "states" [(.post, stateSchema)] []
      [(.post, stateBody)] (by decide) (.cons ⟨rfl, rfl⟩ .nil) _
  refine ⟨hextract, _, rfl, rfl, _, List.mem_singleton.mpr rfl, rfl, fun h => ?_⟩
  have hinferred : (ZodSchema.ofBody stateBody).inferred
      = .nullable (.literals [.string "open"]) := by
    rw [stateBody, ZodSchema.ofBody, ZodSchema.inferred_orNull]
    rfl
  rw [hinferred] at h
  have hliterals : ¬Agrees False statesService.types (.literals [.string "open"])
      (.nullable (.literals [.string "open"])) := by
    intro h
    cases h with
    | unsaid h => cases h
    | unchecked h => cases h
    | leaf ht hu h =>
      cases ht
      cases hu
      simpa using h (.literal .null)
    | enumeration h => exact h
  cases h with
  | unsaid h => cases h
  | unchecked h => cases h
  | leaf ht => cases ht
  | named ht h =>
    cases ht
    exact hliterals h

end ModuleService
end OpenApiGen
