import OpenApiGen.Proofs.Occurrences
import OpenApiGen.Proofs.SourceStatements
import Mathlib.Data.List.Nodup

/-! # The types that a service declares, each under a name of its own -/

namespace OpenApiGen

namespace Naming

def verbInitials : List Char := ['d', 'g', 'h', 'o', 'p', 't']

theorem lowercase_verb (verb : Verb) :
    ∃ c ∈ verbInitials, ∃ rest, (Unicode.lowercase verb.name).toList = c :: rest := by
  cases verb with
  | delete => exact ⟨'d', by decide, _, rfl⟩
  | get => exact ⟨'g', by decide, _, rfl⟩
  | head => exact ⟨'h', by decide, _, rfl⟩
  | options => exact ⟨'o', by decide, _, rfl⟩
  | trace => exact ⟨'t', by decide, _, rfl⟩
  | put | post | patch => exact ⟨'p', by decide, _, rfl⟩

theorem toLower_toUpper_verbInitials : ∀ c ∈ verbInitials, c.toUpper.toLower = c := by
  simp [verbInitials]

theorem upperChar_verbInitials : ∀ c ∈ verbInitials, Unicode.upperChar c = [c.toUpper] := by
  have hascii : ∀ c ∈ verbInitials, c.toNat < 128 := by simp [verbInitials]
  intro c hc
  unfold Unicode.upperChar
  rw [if_pos (hascii c hc)]

/-- A name that starts with a verb can be read off its capitalized form. -/
theorem eq_of_capitalize_handlerName {verb verb' : Verb} {route route' : String}
    (h : capitalize (handlerName verb.name route) = capitalize (handlerName verb'.name route')) :
    handlerName verb.name route = handlerName verb'.name route' := by
  obtain ⟨c, hc, rest, hv⟩ := lowercase_verb verb
  obtain ⟨c', hc', rest', hv'⟩ := lowercase_verb verb'
  have hname : (handlerName verb.name route).toList = c :: (rest ++ routeChars route.toList) := by
    simp [handlerName, routeName, hv]
  have hname' : (handlerName verb'.name route').toList =
      c' :: (rest' ++ routeChars route'.toList) := by
    simp [handlerName, routeName, hv']
  have hchars := congrArg String.toList h
  simp only [capitalize, String.toList_ofList, hname, hname', capitalizeChars,
    upperChar_verbInitials c hc, upperChar_verbInitials c' hc', List.singleton_append,
    List.cons.injEq] at hchars
  obtain ⟨hfirst, hrest⟩ := hchars
  have hinitial : c = c' := by
    rw [← toLower_toUpper_verbInitials c hc, hfirst, toLower_toUpper_verbInitials c' hc']
  rw [← String.toList_inj, hname, hname', hinitial, hrest]

end Naming

namespace Handler

variable {module : ModuleRoutes} {handlers : List Handler}

theorem exists_ofMethod (h : ofModule module = .ok handlers) {handler : Handler}
    (hh : handler ∈ handlers) : ∃ route method, handler = ofMethod module.module route method := by
  rw [ofModule_eq_candidates h] at hh
  obtain ⟨route, -, hh⟩ := List.mem_flatMap.mp hh
  obtain ⟨method, -, rfl⟩ := List.mem_map.mp hh
  exact ⟨route, method, rfl⟩

theorem typeName_injective (h : ofModule module = .ok handlers) {a b : Handler} (ha : a ∈ handlers)
    (hb : b ∈ handlers) (hab : a.typeName = b.typeName) : a.name = b.name := by
  obtain ⟨route, method, rfl⟩ := exists_ofMethod h ha
  obtain ⟨route', method', rfl⟩ := exists_ofMethod h hb
  exact Naming.eq_of_capitalize_handlerName hab

def aliasEndings : List String := ["Params", "Body", "Query"]

/-- What an alias is called says whose it is, and for which part of the request. -/
theorem eq_of_append_aliasEnding {front front' ending ending' : String} (he : ending ∈ aliasEndings)
    (he' : ending' ∈ aliasEndings) (h : front ++ ending = front' ++ ending') :
    front = front' ∧ ending = ending' := by
  have hback : ending.toList.reverse ++ front.toList.reverse =
      ending'.toList.reverse ++ front'.toList.reverse := by
    rw [← List.reverse_append, ← List.reverse_append, ← String.toList_append, h,
      String.toList_append]
  simp only [aliasEndings, List.mem_cons, List.not_mem_nil, or_false] at he he'
  rcases he with rfl | rfl | rfl <;> rcases he' with rfl | rfl | rfl <;>
    simp_all

theorem aliasNames_sublist (handler : Handler) :
    handler.aliasNames.Sublist (aliasEndings.map (handler.typeName ++ ·)) := by
  have hone : ∀ (b : Bool) (name : String), (if b then [] else [name]).Sublist [name] := by
    intro b name
    cases b with
    | true => exact List.nil_sublist _
    | false => exact List.Sublist.refl _
  have hall : aliasEndings.map (handler.typeName ++ ·) =
      [handler.typeName ++ "Params"] ++ [handler.typeName ++ "Body"]
        ++ [handler.typeName ++ "Query"] := rfl
  rw [hall]
  unfold aliasNames
  refine List.Sublist.append (List.Sublist.append (hone _ _) ?_) (hone _ _)
  cases handler.method.body with
  | none => exact List.nil_sublist _
  | some body => exact hone _ _

theorem exists_aliasEnding {handler : Handler} {name : String} (h : name ∈ handler.aliasNames) :
    ∃ ending ∈ aliasEndings, name = handler.typeName ++ ending := by
  obtain ⟨ending, he, rfl⟩ := List.mem_map.mp ((aliasNames_sublist handler).subset h)
  exact ⟨ending, he, rfl⟩

theorem aliasNames_nodup (handler : Handler) : handler.aliasNames.Nodup := by
  have hall : (aliasEndings.map (handler.typeName ++ ·)).Nodup := by
    refine List.Nodup.map_on (fun a ha b hb h => ?_) (by decide)
    exact (eq_of_append_aliasEnding ha hb h).2
  exact hall.sublist (aliasNames_sublist handler)

theorem nodup_aliasNames (h : ofModule module = .ok handlers) :
    (handlers.flatMap aliasNames).Nodup := by
  rw [List.nodup_flatMap]
  refine ⟨fun handler _ => aliasNames_nodup handler, ?_⟩
  have hnames := nodup_names h
  rw [List.Nodup, List.pairwise_map] at hnames
  refine hnames.imp_of_mem fun {a b} ha hb hne name hname hname' => ?_
  obtain ⟨ending, he, rfl⟩ := exists_aliasEnding hname
  obtain ⟨ending', he', heq⟩ := exists_aliasEnding hname'
  exact hne (typeName_injective h ha hb (eq_of_append_aliasEnding he he' heq).1)

end Handler

namespace Handler

/-- No two schemas of objects in the bodies share an identifier. -/
def DistinctIdentifiers (handlers : List Handler) : Prop :=
  ∀ a b, Mention handlers a → Mention handlers b →
    Naming.typeIdentifier a = Naming.typeIdentifier b → a = b

end Handler

namespace ModuleService

/-- The types of a service file under their names, first the declared schemas and then what the
functions bring along. -/
def types (service : ModuleService) : List (String × TypeExpr) := Source.types service.source

variable {doc : Document} {lossy : Prop} {handlers : List Handler} {service : ModuleService}

theorem extends_of_flattened (hf : Handler.Flattened doc lossy handlers)
    (hservice : ofHandlers handlers = .ok service) :
    service.functions = handlers.map ServiceFunction.outlined ∧
      Extends [] (Handler.Call handlers) (Handler.Part handlers) [] service.declarations :=
  extends_of_ofHandlers (fun _ hh _ hb => hf.fits hh hb) hservice

theorem nodup_identifiers (hf : Handler.Flattened doc lossy handlers)
    (hservice : ofHandlers handlers = .ok service) :
    (Declaration.identifiers service.declarations).Nodup := by
  obtain ⟨-, hextends⟩ := extends_of_flattened hf hservice
  exact hextends.distinct (by simp [Declaration.identifiers])

theorem keys_types (hservice : ofHandlers handlers = .ok service) :
    KeyedList.keys service.types =
      Declaration.identifiers service.declarations ++ handlers.flatMap Handler.aliasNames := by
  obtain ⟨⟨functions, declarations⟩, hr, hs⟩ := bind_eq_ok_iff.mp hservice
  have hnames := ServiceFunction.aliases_of_mapM hr
  dsimp only at hs
  split at hs
  · cases hs
  · cases hs
    have hdeclared : Prod.fst ∘ (fun d : Declaration => (d.identifier, d.type)) =
        Declaration.identifier := rfl
    have hbrought : Prod.fst ∘ (fun a : TypeAlias => (a.name, a.type)) = TypeAlias.name := rfl
    simp only [KeyedList.keys, types, types_source, List.map_append, List.map_map, hdeclared,
      hbrought, List.map_flatMap, Declaration.identifiers]
    rw [List.flatMap_def, hnames, ← List.flatMap_def]

theorem identifier_not_mem_aliasNames (hservice : ofHandlers handlers = .ok service)
    {identifier : String} (hi : identifier ∈ Declaration.identifiers service.declarations) :
    identifier ∉ handlers.flatMap Handler.aliasNames := by
  intro hm
  obtain ⟨handler, hh, hm⟩ := List.mem_flatMap.mp hm
  obtain ⟨d, hd, rfl⟩ := List.mem_map.mp hi
  obtain ⟨schema, hclosed, hi⟩ :=
    (exists_declaration_iff (holds_of_ofHandlers hservice) d.identifier).mp ⟨d, hd, rfl⟩
  obtain ⟨-, hfree⟩ := (exists_ofHandlers_iff handlers).mp ⟨service, hservice⟩
  exact hfree schema hclosed handler hh (hi ▸ hm)

/-- No two types of a service file have the same name. -/
theorem nodup_types {module : ModuleRoutes} (hhandlers : Handler.ofModule module = .ok handlers)
    (hf : Handler.Flattened doc lossy handlers) (hservice : ofHandlers handlers = .ok service) :
    (KeyedList.keys service.types).Nodup := by
  rw [keys_types hservice, List.nodup_append]
  refine ⟨nodup_identifiers hf hservice, Handler.nodup_aliasNames hhandlers, ?_⟩
  rintro identifier hi name hname rfl
  exact identifier_not_mem_aliasNames hservice hi hname

theorem find?_types_of_declared {module : ModuleRoutes}
    (hhandlers : Handler.ofModule module = .ok handlers) (hf : Handler.Flattened doc lossy handlers)
    (hservice : ofHandlers handlers = .ok service) {d : Declaration}
    (hd : d ∈ service.declarations) :
    KeyedList.find? d.identifier service.types = some d.type := by
  refine KeyedList.find?_of_mem (nodup_types hhandlers hf hservice) ?_
  rw [types, types_source]
  exact List.mem_append_left _ (List.mem_map.mpr ⟨d, hd, rfl⟩)

theorem find?_types_of_alias {module : ModuleRoutes}
    (hhandlers : Handler.ofModule module = .ok handlers) (hf : Handler.Flattened doc lossy handlers)
    (hservice : ofHandlers handlers = .ok service) {function : ServiceFunction} {a : TypeAlias}
    (hfunction : function ∈ service.functions) (ha : a ∈ function.aliases) :
    KeyedList.find? a.name service.types = some a.type := by
  refine KeyedList.find?_of_mem (nodup_types hhandlers hf hservice) ?_
  rw [types, types_source]
  refine List.mem_append_right _ (List.mem_map.mpr ⟨a, ?_, rfl⟩)
  exact List.mem_flatMap.mpr ⟨function, hfunction, ha⟩

/-- An identifier that is declared belongs to the one schema that has it, and stands for one of its
objects. -/
theorem exists_object_of_declared (hf : Handler.Flattened doc lossy handlers)
    (hdistinct : Handler.DistinctIdentifiers handlers)
    (hservice : ofHandlers handlers = .ok service) {name : String}
    (hm : Handler.Mention handlers name)
    (hi : Naming.typeIdentifier name ∈ Declaration.identifiers service.declarations) :
    ∃ origin required properties, origin.name = name ∧
      Handler.Part handlers (.object (some origin) required properties) ∧
      Declaration.ofObject origin required properties ∈ service.declarations ∧
      ∀ property ∈ properties, ∀ inner, property.2.Calls inner →
        Naming.typeIdentifier inner ∈ Declaration.identifiers service.declarations := by
  obtain ⟨-, hextends⟩ := extends_of_flattened hf hservice
  obtain ⟨d, hd, hidentifier⟩ := List.mem_map.mp hi
  rcases hextends.made d hd with hd' | ⟨origin, required, properties, hpart, rfl, hcalls⟩
  · cases hd'
  · refine ⟨origin, required, properties, ?_, hpart, hd, fun property hp inner hc => ?_⟩
    · exact hdistinct _ _ (hpart.mention rfl) hm hidentifier
    · exact (hcalls property hp inner hc).resolve_right (by simp)

end ModuleService

namespace ServiceFunction

variable {handler : Handler} {body : RequestBody}

theorem lookup_body_outlined (hb : handler.method.body = some body) :
    (outlined handler).arguments.lookup .body
      = some (bodyNaming handler body body.outline).1 := by
  have hparams : ∀ aliases : List TypeAlias,
      (aliases.map fun a => (RequestPart.params, a.name)).lookup .body = none := by
    intro aliases
    induction aliases with
    | nil => rfl
    | cons a rest ih => exact ih
  unfold outlined ofBodyType
  rw [hb]
  simp only [List.lookup_append, hparams, Option.none_or]
  rfl

theorem bodyAlias_mem_outlined (hb : handler.method.body = some body)
    (hn : body.isNamedObject = false) :
    ⟨handler.typeName ++ "Body", body.outline⟩ ∈ (outlined handler).aliases := by
  unfold outlined ofBodyType bodyNaming
  rw [hb]
  simp [hn]

end ServiceFunction
namespace ModuleService

open RequestBody

def nodesSchema : Schema := { type := some (.single "array"), items := some nodeReference }

def nodesBody : RequestBody := .array nodeBody

/-- One node is posted, and several are put. -/
def nodesDocument : Document :=
  .ofBodies "/nodes" [(.post, nodeReference), (.put, nodesSchema)] [("Node", nodeSchema)]

def nodesModule : ModuleRoutes :=
  ⟨"nodes", [⟨"/nodes", "/nodes",
    [⟨.post, [], some nodeBody, false⟩, ⟨.put, [], some nodesBody, false⟩]⟩]⟩

def nodesHandlers : List Handler := Handler.candidates nodesModule

theorem extractModules_nodes :
    (nodesDocument.extractModules "bearerAuth").outcome = .ok [nodesModule] := by
  have hnode : (flatten nodesDocument nodeReference).value = some nodeBody := by
    rw [flatten_congr nodesDocument nodeDocument rfl, flatten_nodeReference]
  have hnodes : (flatten nodesDocument nodesSchema).value = some nodesBody := by
    rw [flatten_congr nodesDocument nodeDocument rfl]
    exact outcome_iff.mp (.array (by decide) rfl rfl (outcome_nodeReference (by decide)))
  exact Document.extractModules_ofBodies "/nodes" "nodes"
    [(.post, nodeReference), (.put, nodesSchema)] [("Node", nodeSchema)]
    [(.post, nodeBody), (.put, nodesBody)] (by decide)
    (.cons ⟨rfl, hnode⟩ (.cons ⟨rfl, hnodes⟩ .nil)) _

theorem ofModule_nodes : Handler.ofModule nodesModule = .ok nodesHandlers := rfl

theorem ofHandlers_nodes :
    ofHandlers nodesHandlers = .ok
      ⟨[⟨"Node", "Node", .record [("labels", false, .array .string), ("next", true, .named "Node")]⟩],
        [⟨"postNodes", [], [(.body, "Node")], "POST /nodes"⟩,
          ⟨"putNodes", [⟨"PutNodesBody", .array (.named "Node")⟩], [(.body, "PutNodesBody")],
            "PUT /nodes"⟩],
        ["postNodes", "putNodes"]⟩ :=
  rfl

theorem part_nodes {part : RequestBody} (h : Handler.Part nodesHandlers part) :
    part ∈ nodesBody.parts := by
  obtain ⟨handler, hh, body, hb, hw⟩ := h
  rcases List.mem_cons.mp hh with rfl | hh
  · cases hb
    exact mem_parts_of_within (.item hw)
  · obtain rfl := List.mem_singleton.mp hh
    cases hb
    exact mem_parts_of_within hw

theorem mention_nodes {name : String} (h : Handler.Mention nodesHandlers name) : name = "Node" := by
  obtain ⟨part, hp, hn⟩ := h.exists_part
  have hnamed : ∀ part ∈ nodesBody.parts, ∀ name, part.name? = some name → name = "Node" := by
    simp [nodesBody, nodeBody, parts, partsOfAll, name?]
  exact hnamed part (part_nodes hp) name hn

theorem distinctIdentifiers_nodes : Handler.DistinctIdentifiers nodesHandlers := by
  intro a b ha hb _
  rw [mention_nodes ha, mention_nodes hb]

end ModuleService
end OpenApiGen
