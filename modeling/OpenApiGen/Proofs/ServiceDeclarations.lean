import OpenApiGen.Proofs.BodyFlattening
import OpenApiGen.Proofs.DeclarationHistory
import OpenApiGen.Proofs.ExtractedItems

/-! # When a module gets its service, and which schemas may share an identifier in it -/

namespace OpenApiGen

namespace Handler

/-- The names of the types that a handler brings along. -/
def aliasNames (handler : Handler) : List String :=
  (if (handler.method.parametersIn .path).isEmpty then [] else [handler.typeName ++ "Params"])
    ++ (match handler.method.body with
      | none => []
      | some body => if body.isNamedObject then [] else [handler.typeName ++ "Body"])
    ++ if (handler.method.parametersIn .query).isEmpty then [] else [handler.typeName ++ "Query"]

def visit (history : List Visit) (handler : Handler) : List Visit :=
  match handler.method.body with
  | none => history
  | some body => body.visit history

theorem visit_of_body {handler : Handler} {body : RequestBody} (h : handler.method.body = some body)
    (history : List Visit) : visit history handler = body.visit history := by
  unfold visit
  rw [h]

/-- The visits of a whole module, last one first. -/
def visits (handlers : List Handler) : List Visit := handlers.foldl visit []

/-- The schema names an object somewhere in the bodies of the handlers. -/
def Mention (handlers : List Handler) (name : String) : Prop :=
  ∃ handler ∈ handlers, ∃ body, handler.method.body = some body ∧ body.Mentions name

/-- Somewhere in the bodies of the handlers an object of the one schema stands inside of an object of
the other. -/
def Enclose (handlers : List Handler) (outer inner : String) : Prop :=
  ∃ handler ∈ handlers, ∃ body, handler.method.body = some body ∧ body.Encloses outer inner

/-- The schema is come to nowhere: its objects stand inside of those of schemas that were closed
before. -/
def PassOver (handlers : List Handler) (name : String) : Prop :=
  .opened name ∉ visits handlers ∧
    ∃ outer, .closed outer ∈ visits handlers ∧ Enclose handlers outer name

theorem foldl_visit_eq_append (handlers : List Handler) (history : List Visit) :
    ∃ later, handlers.foldl visit history = later ++ history := by
  induction handlers generalizing history with
  | nil => exact ⟨[], rfl⟩
  | cons handler rest ih =>
    obtain ⟨later, hl⟩ := ih (visit history handler)
    rw [List.foldl_cons, hl]
    unfold visit
    split
    · exact ⟨later, rfl⟩
    · rename_i body _
      obtain ⟨first, hf⟩ := body.visit_eq_append history
      exact ⟨later ++ first, by rw [hf, List.append_assoc]⟩

theorem undisputed_of_foldl_visit {handlers : List Handler} {history : List Visit}
    (h : Visit.Undisputed (handlers.foldl visit history)) : Visit.Undisputed history := by
  obtain ⟨later, hl⟩ := foldl_visit_eq_append handlers history
  exact Visit.Undisputed.of_append (hl ▸ h)

theorem foldl_visit_nested {nests : String → String → Prop} {handlers : List Handler}
    {history : List Visit} (h : Nested nests [] history)
    (hu : Visit.Undisputed (handlers.foldl visit history))
    (he : ∀ s t, Enclose handlers s t → nests s t) :
    Nested nests [] (handlers.foldl visit history) := by
  induction handlers generalizing history with
  | nil => exact h
  | cons handler rest ih =>
    rw [List.foldl_cons] at hu ⊢
    refine ih ?_ hu fun s t ⟨other, ho, ht⟩ => he s t ⟨other, List.mem_cons_of_mem _ ho, ht⟩
    have hfirst := undisputed_of_foldl_visit hu
    unfold visit at hfirst ⊢
    split
    · exact h
    · rename_i body hb
      rw [hb] at hfirst
      exact RequestBody.visit_nested h body hfirst (fun s hs => by cases hs)
        fun s t ht => he s t ⟨handler, List.mem_cons_self .., body, hb, ht⟩

theorem visits_nested {handlers : List Handler} (hu : Visit.Undisputed (visits handlers)) :
    Nested (Enclose handlers) [] (visits handlers) := by
  have hempty : Nested (Enclose handlers) [] [] :=
    ⟨by simp, by simp, by simp⟩
  exact foldl_visit_nested hempty hu fun _ _ h => h

theorem opened_or_passOver {handlers : List Handler} {name : String} (h : Mention handlers name) :
    .opened name ∈ visits handlers ∨ PassOver handlers name := by
  by_cases ho : .opened name ∈ visits handlers
  · exact .inl ho
  · refine .inr ⟨ho, ?_⟩
    obtain ⟨handler, hh, body, hb, hm⟩ := h
    obtain ⟨before, after, rfl⟩ := List.append_of_mem hh
    obtain ⟨later, hl⟩ := foldl_visit_eq_append after (visit (visits before) handler)
    have hv : visits (before ++ handler :: after) = later ++ body.visit (visits before) := by
      rw [visit_of_body hb] at hl
      rw [visits, List.foldl_append, List.foldl_cons, visit_of_body hb]
      exact hl
    rw [hv] at ho ⊢
    rcases RequestBody.opened_or_enclosed hm (visits before) with hm | ⟨outer, hc, he⟩
    · exact absurd (List.mem_append_right _ hm) ho
    · exact ⟨outer, List.mem_append_right _ hc, handler, hh, body, hb, he⟩

end Handler

namespace ServiceFunction

theorem map_name_parametersAlias (handler : Handler) (location : Location) (ending : String) :
    (parametersAlias handler location ending).map TypeAlias.name =
      if (handler.method.parametersIn location).isEmpty then [] else [handler.typeName ++ ending] := by
  unfold parametersAlias
  simp only
  split <;> rfl

theorem run_bodyType_none {handler : Handler} (h : handler.method.body = none)
    (declarations : List Declaration) :
    (bodyType handler).run declarations = .ok (none, declarations) := by
  unfold bodyType
  rw [h]
  rfl

/-- What a function calls the type of its body, and the alias that it needs for it. -/
def bodyNaming (handler : Handler) (body : RequestBody) (type : TypeExpr) :
    String × List TypeAlias :=
  if body.isNamedObject then (type.text 0, [])
  else (handler.typeName ++ "Body", [⟨handler.typeName ++ "Body", type⟩])

theorem run_bodyType_some {handler : Handler} {body : RequestBody}
    (h : handler.method.body = some body) (declarations : List Declaration) :
    (bodyType handler).run declarations =
      (fun (t, after) => (some (bodyNaming handler body t), after)) <$>
        body.type.run declarations := by
  unfold bodyType bodyNaming
  rw [h]
  simp only [StateT.run_bind]
  cases hr : body.type.run declarations with
  | error failure => rfl
  | ok result =>
    cases hb : body.isNamedObject <;> simp

/-- The function of a handler, given the type of its body. -/
def ofBodyType (handler : Handler) (body : Option (String × List TypeAlias)) : ServiceFunction :=
  let params := parametersAlias handler .path "Params"
  let query := parametersAlias handler .query "Query"
  { name := handler.name
    aliases := params ++ (body.map Prod.snd).getD [] ++ query
    arguments := params.map (fun a => (.params, a.name))
      ++ body.toList.map (fun b => (.body, b.1)) ++ query.map (fun a => (.query, a.name))
    owner := handler.describe }

theorem run_ofHandler (handler : Handler) (declarations : List Declaration) :
    (ofHandler handler).run declarations =
      (fun (body, after) => (ofBodyType handler body, after)) <$>
        (bodyType handler).run declarations := by
  unfold ofHandler
  rw [StateT.run_bind]
  cases (bodyType handler).run declarations <;> rfl

theorem ofHandler_settles {declarations : List Declaration} {history : List Visit}
    (hd : Holds declarations history) (hu : Visit.Undisputed history) (handler : Handler) :
    Settles ((ofHandler handler).run declarations) (handler.visit history) := by
  rw [run_ofHandler, Handler.visit]
  refine Settles.map ?_ _
  cases hb : handler.method.body with
  | none =>
    rw [run_bodyType_none hb]
    exact ⟨hd, hu⟩
  | some body =>
    rw [run_bodyType_some hb]
    exact (RequestBody.type_settles hd hu body).map fun t => some (bodyNaming handler body t)

/-- A function is made from its handler and from types for the body, whatever was declared before. -/
theorem exists_typeOf {handler : Handler} {declarations after : List Declaration}
    {function : ServiceFunction}
    (h : (ofHandler handler).run declarations = .ok (function, after)) :
    ∃ typeOf : RequestBody → TypeExpr, function = ofBodyType handler
      (handler.method.body.map fun body => bodyNaming handler body (typeOf body)) := by
  rw [run_ofHandler] at h
  obtain ⟨⟨named, after'⟩, hr, heq⟩ := map_eq_ok_iff.mp h
  cases heq
  cases hb : handler.method.body with
  | none =>
    rw [run_bodyType_none hb] at hr
    cases hr
    exact ⟨fun _ => .any, rfl⟩
  | some body =>
    rw [run_bodyType_some hb] at hr
    obtain ⟨⟨t, between⟩, -, heq⟩ := map_eq_ok_iff.mp hr
    cases heq
    exact ⟨fun _ => t, rfl⟩

theorem map_name_aliases_ofBodyType (handler : Handler) (typeOf : RequestBody → TypeExpr) :
    (ofBodyType handler (handler.method.body.map fun body =>
      bodyNaming handler body (typeOf body))).aliases.map TypeAlias.name = handler.aliasNames := by
  unfold Handler.aliasNames
  cases handler.method.body with
  | none => simp [ofBodyType, map_name_parametersAlias]
  | some body =>
    cases hn : body.isNamedObject <;> simp [ofBodyType, bodyNaming, map_name_parametersAlias, hn]

theorem visits_settle {declarations : List Declaration} {history : List Visit}
    (hd : Holds declarations history) (hu : Visit.Undisputed history) (handlers : List Handler) :
    Settles ((handlers.mapM ofHandler).run declarations) (handlers.foldl Handler.visit history) := by
  induction handlers generalizing declarations history with
  | nil => exact ⟨hd, hu⟩
  | cons handler rest ih =>
    rw [List.mapM_cons, StateT.run_bind, List.foldl_cons]
    have hfirst := ofHandler_settles hd hu handler
    cases hr : (ofHandler handler).run declarations with
    | error failure =>
      rw [hr] at hfirst
      exact fun h => hfirst (Handler.undisputed_of_foldl_visit h)
    | ok result =>
      rw [hr] at hfirst
      have hrest := ih hfirst.1 hfirst.2
      simp only [ok_bind, StateT.run_bind, StateT.run_pure]
      cases hr' : (rest.mapM ofHandler).run result.2 <;> rw [hr'] at hrest <;> exact hrest

/-- The functions of a run, one for each handler. -/
theorem forall₂_of_mapM {handlers : List Handler} {declarations after : List Declaration}
    {functions : List ServiceFunction}
    (h : (handlers.mapM ofHandler).run declarations = .ok (functions, after)) :
    List.Forall₂ (fun handler function => ∃ typeOf : RequestBody → TypeExpr,
      function = ofBodyType handler
        (handler.method.body.map fun body => bodyNaming handler body (typeOf body)))
      handlers functions := by
  induction handlers generalizing declarations functions with
  | nil =>
    cases h
    exact .nil
  | cons handler rest ih =>
    simp only [List.mapM_cons, StateT.run_bind, StateT.run_pure, bind_eq_ok_iff] at h
    obtain ⟨⟨function, between⟩, hfirst, ⟨others, last⟩, hrest, heq⟩ := h
    cases heq
    exact .cons (exists_typeOf hfirst) (ih hrest)

theorem aliases_of_mapM {handlers : List Handler} {declarations after : List Declaration}
    {functions : List ServiceFunction}
    (h : (handlers.mapM ofHandler).run declarations = .ok (functions, after)) :
    functions.map (fun f => f.aliases.map TypeAlias.name) = handlers.map Handler.aliasNames := by
  refine (map_eq_map_of_forall₂ ((forall₂_of_mapM h).imp fun handler function hf => ?_)).symm
  obtain ⟨typeOf, rfl⟩ := hf
  exact (map_name_aliases_ofBodyType handler typeOf).symm

end ServiceFunction

namespace ModuleService

theorem aliasOwner?_isSome_iff {functions : List ServiceFunction} {name : String} :
    (aliasOwner? functions name).isSome ↔
      ∃ names ∈ functions.map (fun f => f.aliases.map TypeAlias.name), name ∈ names := by
  unfold aliasOwner?
  rw [Option.isSome_map, List.find?_isSome]
  simp

theorem clash?_eq_none_iff {declarations : List Declaration} {functions : List ServiceFunction} :
    clash? declarations functions = none ↔
      ∀ d ∈ declarations, ¬(aliasOwner? functions d.identifier).isSome := by
  unfold clash?
  simp

/-- The declared identifiers are those of the closed schemas. -/
theorem exists_declaration_iff {declarations : List Declaration} {history : List Visit}
    (hd : Holds declarations history) (identifier : String) :
    (∃ d ∈ declarations, d.identifier = identifier) ↔
      ∃ schema, .closed schema ∈ history ∧ Naming.typeIdentifier schema = identifier := by
  have hfind : (∃ d ∈ declarations, d.identifier = identifier) ↔
      (Visit.holder? identifier history).isSome := by
    rw [← hd identifier, Option.isSome_map, List.find?_isSome]
    simp
  rw [hfind]
  constructor
  · intro h
    obtain ⟨schema, hs⟩ := Option.isSome_iff_exists.mp h
    exact ⟨schema, Visit.identifier_of_holder? hs⟩
  · rintro ⟨schema, hc, rfl⟩
    exact Option.isSome_iff_exists.mpr (Visit.holder?_isSome_of_closed hc)

/-- A module gets its service exactly if no identifier is disputed and no alias has the name of a
declared one. -/
theorem exists_ofHandlers_iff (handlers : List Handler) :
    (∃ service, ofHandlers handlers = .ok service) ↔
      Visit.Undisputed (Handler.visits handlers) ∧
        ∀ schema, .closed schema ∈ Handler.visits handlers → ∀ handler ∈ handlers,
          Naming.typeIdentifier schema ∉ handler.aliasNames := by
  have hrun : Settles ((handlers.mapM ServiceFunction.ofHandler).run []) (Handler.visits handlers) :=
    ServiceFunction.visits_settle (show Holds [] [] from fun _ => rfl)
      (show Visit.Undisputed [] from trivial) handlers
  unfold ofHandlers
  cases hr : (handlers.mapM ServiceFunction.ofHandler).run [] with
  | error failure =>
    rw [hr] at hrun
    constructor
    · rintro ⟨service, hs⟩
      cases hs
    · exact fun h => absurd h.1 hrun
  | ok result =>
    obtain ⟨functions, declarations⟩ := result
    rw [hr] at hrun
    obtain ⟨hd, hu⟩ := hrun
    have hnames := ServiceFunction.aliases_of_mapM hr
    have hclash : clash? declarations functions = none ↔
        ∀ schema, .closed schema ∈ Handler.visits handlers → ∀ handler ∈ handlers,
          Naming.typeIdentifier schema ∉ handler.aliasNames := by
      rw [clash?_eq_none_iff]
      simp only [aliasOwner?_isSome_iff, hnames, List.mem_map]
      constructor
      · intro h schema hs handler hh hm
        obtain ⟨d, hdm, hi⟩ := (exists_declaration_iff hd _).mpr ⟨schema, hs, rfl⟩
        exact h d hdm ⟨_, ⟨handler, hh, rfl⟩, hi ▸ hm⟩
      · rintro h d hdm ⟨_, ⟨handler, hh, rfl⟩, hm⟩
        obtain ⟨schema, hs, hi⟩ := (exists_declaration_iff hd d.identifier).mp ⟨d, hdm, rfl⟩
        exact h schema hs handler hh (hi ▸ hm)
    rw [← hclash, ok_bind]
    dsimp only
    cases clash? declarations functions with
    | none => exact ⟨fun _ => ⟨hu, rfl⟩, fun _ => ⟨_, rfl⟩⟩
    | some failure => simp

theorem holds_of_ofHandlers {handlers : List Handler} {service : ModuleService}
    (h : ofHandlers handlers = .ok service) :
    Holds service.declarations (Handler.visits handlers) := by
  have hrun : Settles ((handlers.mapM ServiceFunction.ofHandler).run []) (Handler.visits handlers) :=
    ServiceFunction.visits_settle (show Holds [] [] from fun _ => rfl)
      (show Visit.Undisputed [] from trivial) handlers
  obtain ⟨⟨functions, declarations⟩, hr, hs⟩ := bind_eq_ok_iff.mp h
  rw [hr] at hrun
  dsimp only at hs
  split at hs
  · cases hs
  · cases hs
    exact hrun.1

/-- A module gets its service exactly if every named object finds its identifier free, or taken last
by its own schema, and no alias has the name of a declared one. Two schemas share an identifier in a
service only where one encloses the other or is passed over, and the one closed last is declared. -/
theorem ofHandlers_identifiers (handlers : List Handler) :
    ((∃ service, ofHandlers handlers = .ok service) ↔
      Visit.Undisputed (Handler.visits handlers) ∧
        ∀ schema, .closed schema ∈ Handler.visits handlers → ∀ handler ∈ handlers,
          Naming.typeIdentifier schema ∉ handler.aliasNames) ∧
    ∀ service, ofHandlers handlers = .ok service →
      (∀ a b, Handler.Mention handlers a → Handler.Mention handlers b → a ≠ b →
        Naming.typeIdentifier a = Naming.typeIdentifier b →
          (Handler.Enclose handlers a b ∨ Handler.Enclose handlers b a) ∨
            Handler.PassOver handlers a ∨ Handler.PassOver handlers b) ∧
      ∀ identifier,
        (service.declarations.find? (·.identifier == identifier)).map Declaration.schema
          = Visit.holder? identifier (Handler.visits handlers) := by
  have hiff := exists_ofHandlers_iff handlers
  refine ⟨hiff, fun service hs => ⟨fun a b ha hb hne hi => ?_, holds_of_ofHandlers hs⟩⟩
  obtain ⟨hu, -⟩ := hiff.mp ⟨service, hs⟩
  rcases Handler.opened_or_passOver ha with ha | ha
  · rcases Handler.opened_or_passOver hb with hb | hb
    · exact .inl ((Handler.visits_nested hu).shared a b ha hb hne hi)
    · exact .inr (.inr hb)
  · exact .inr (.inl ha)

open RequestBody

def userDtoReference : Schema := { reference := some "#/components/schemas/user-dto" }

def ownerReference : Schema := { reference := some "#/components/schemas/UserDto" }

def userDtoSchema : Schema :=
  { type := some (.single "object"), properties := [("owner", ownerReference)] }

def ownerSchema : Schema :=
  { type := some (.single "object"), properties := [("id", { type := some (.single "string") })] }

def postUsers : Operation where
  operationId := none
  summary := none
  parameters := none
  requestBody := some (.inline ⟨none, [("application/json", ⟨some userDtoReference⟩)], none⟩)
  security := none

/-- A schema with a property of another one that has the same identifier. -/
def nestedClash : Document where
  openapi := "3.0.0"
  info := ⟨"T", "1", none⟩
  paths := [("/users", [(.post, postUsers)])]
  components := { schemas := [("user-dto", userDtoSchema), ("UserDto", ownerSchema)] }

def nestedClashBody : RequestBody :=
  .object (some ⟨"user-dto", "#/components/schemas/user-dto"⟩) []
    [("owner", .object (some ⟨"UserDto", "#/components/schemas/UserDto"⟩) []
      [("id", .leaf .string .string [] false none)])]

def nestedClashModule : ModuleRoutes :=
  ⟨"users", [⟨"/users", "/users", [⟨.post, [], some nestedClashBody, false⟩]⟩]⟩

def nestedClashHandlers : List Handler := Handler.candidates nestedClashModule

theorem flattenFrom_ownerReference (levels : Nat) :
    (flattenFrom nestedClash (levels + 3) ["user-dto"] none ownerReference).value =
      some (.object (some ⟨"UserDto", "#/components/schemas/UserDto"⟩) []
        [("id", .leaf .string .string [] false none)]) := by
  have hleads : Leads nestedClash ownerReference
      ⟨"UserDto", "#/components/schemas/UserDto"⟩ ownerSchema := ⟨rfl, by decide +kernel, rfl⟩
  rw [flattenFrom_leads hleads, if_neg (by decide), flattenFrom_object rfl]
  rfl

theorem flattenFrom_userDtoReference (levels : Nat) :
    (flattenFrom nestedClash (levels + 5) [] none userDtoReference).value
      = some nestedClashBody := by
  have hleads : Leads nestedClash userDtoReference
      ⟨"user-dto", "#/components/schemas/user-dto"⟩ userDtoSchema := ⟨rfl, by decide +kernel, rfl⟩
  have hproperties : userDtoSchema.properties = [("owner", ownerReference)] := rfl
  rw [flattenFrom_leads hleads, if_neg (by decide), flattenFrom_object rfl]
  simp only [hproperties, Traced.value_bind, Traced.value_mapM, List.map_cons, List.map_nil,
    Traced.value_pure, flattenFrom_ownerReference]
  rfl

theorem extractMethod_nestedClash :
    (nestedClash.extractMethod "bearerAuth" "/users" .post postUsers).outcome
      = .ok ⟨.post, [], some nestedClashBody, false⟩ := by
  have hbody : (RequestBody.extract nestedClash
      (.inline ⟨none, [("application/json", ⟨some userDtoReference⟩)], none⟩)).value
        = some nestedClashBody := by
    simp only [RequestBody.extract, ofEntry, mediaType, KeyedList.find?, if_true, Option.bind_some]
    exact flattenFrom_userDtoReference 60
  unfold Document.extractMethod
  simp only [postUsers, Attempt.outcome_bind, Attempt.outcome_lift, hbody, ok_bind,
    Attempt.outcome_report]
  rfl

theorem extractModules_nestedClash :
    (nestedClash.extractModules "bearerAuth").outcome = .ok [nestedClashModule] := by
  have hmodules : nestedClash.modules = ["users"] := by decide
  have hpaths : nestedClash.paths = [("/users", [(.post, postUsers)])] := rfl
  have husers : moduleOf? "/users" = some "users" := by decide
  rw [Document.extractModules_eq_ok_iff, hmodules]
  refine .cons ?_ .nil
  simp only [Document.extractModule, hpaths, List.filter_cons, List.filter_nil, husers,
    decide_true, if_true, Document.extractRoute, Attempt.outcome_bind, List.mapM_cons,
    List.mapM_nil, extractMethod_nestedClash, ok_bind, Attempt.outcome_pure]
  rfl

theorem ofHandlers_nestedClash :
    ofHandlers nestedClashHandlers = .ok
      ⟨[⟨"UserDto", "user-dto", .record [("owner", true, .named "UserDto")]⟩],
        [⟨"postUsers", [], [(.body, "UserDto")], "POST /users"⟩], ["postUsers"]⟩ := by
  rfl

theorem mention_outer_nestedClash : Handler.Mention nestedClashHandlers "user-dto" :=
  ⟨_, List.mem_cons_self .., nestedClashBody, rfl, _, .self, rfl⟩

theorem mention_inner_nestedClash : Handler.Mention nestedClashHandlers "UserDto" :=
  ⟨_, List.mem_cons_self .., nestedClashBody, rfl, _, .property (List.mem_cons_self ..) .self, rfl⟩

theorem ofHandlers_identifiers_nestedClash :
    (∃ service, ofHandlers nestedClashHandlers = .ok service) ∧
      ((Handler.Enclose nestedClashHandlers "user-dto" "UserDto" ∨
          Handler.Enclose nestedClashHandlers "UserDto" "user-dto") ∨
        Handler.PassOver nestedClashHandlers "user-dto" ∨
          Handler.PassOver nestedClashHandlers "UserDto") := by
  obtain ⟨-, hshared⟩ := ofHandlers_identifiers nestedClashHandlers
  obtain ⟨hpairs, -⟩ := hshared _ ofHandlers_nestedClash
  exact ⟨⟨_, ofHandlers_nestedClash⟩, hpairs _ _ mention_outer_nestedClash
    mention_inner_nestedClash (by decide) (by decide)⟩

/-- Both schemas go by `UserDto`. The inner one is declared, and then replaced by the outer one. -/
theorem nested_schema_replaces_declaration :
    ∃ handlers service,
      (nestedClash.extractModules "bearerAuth").outcome = .ok [nestedClashModule] ∧
      Handler.ofModule nestedClashModule = .ok handlers ∧ ofHandlers handlers = .ok service ∧
      Handler.Mention handlers "user-dto" ∧ Handler.Mention handlers "UserDto" ∧
      Naming.typeIdentifier "user-dto" = Naming.typeIdentifier "UserDto" ∧
      service.declarations.map Declaration.schema = ["user-dto"] := by
  have hhandlers : Handler.ofModule nestedClashModule = .ok nestedClashHandlers := rfl
  exact ⟨nestedClashHandlers, _, extractModules_nestedClash, hhandlers, ofHandlers_nestedClash,
    mention_outer_nestedClash, mention_inner_nestedClash, by decide, rfl⟩

end ModuleService
end OpenApiGen
