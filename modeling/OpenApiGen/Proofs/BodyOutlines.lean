import OpenApiGen.Proofs.FlattenedTrees
import OpenApiGen.Proofs.ServiceDeclarations

/-!
# The types of bodies, and the declarations that they call for

The type of a body does not depend on what was declared before. Each declaration holds the type of
one object, and every object that is called by its name in a type gets declared.
-/

namespace OpenApiGen

namespace RequestBody

mutual

/-- The type of a body, in which an object with a name is called by it. -/
def outline : RequestBody → TypeExpr
  | .leaf type _ _ _ _ => type
  | .cut name _ _ => .named (Naming.typeIdentifier name)
  | .array item => .array (outline item)
  | .object none required properties => recordType (outlines required properties)
  | .object (some origin) _ _ => .named (Naming.typeIdentifier origin.name)

def outlines (required : List String) :
    List (String × RequestBody) → List (String × Bool × TypeExpr)
  | [] => []
  | (name, body) :: rest =>
    (Naming.propertyKey name, !required.contains name, outline body) :: outlines required rest

end

/-- The type of the body calls an object by this name. -/
inductive Calls : RequestBody → String → Prop
  | cut {name nullable description} : Calls (.cut name nullable description) name
  | named {origin required properties} :
      Calls (.object (some origin) required properties) origin.name
  | item {item name} (h : Calls item name) : Calls (.array item) name
  | property {required properties property name} (hp : property ∈ properties)
      (h : Calls property.2 name) : Calls (.object none required properties) name

end RequestBody

open RequestBody

/-- The declaration of an object with a name. -/
def Declaration.ofObject (origin : Origin) (required : List String)
    (properties : List (String × RequestBody)) : Declaration :=
  ⟨Naming.typeIdentifier origin.name, origin.name, recordType (outlines required properties)⟩

namespace Declaration

def identifiers (declarations : List Declaration) : List String := declarations.map identifier

theorem mem_put {d e : Declaration} {declarations : List Declaration}
    (h : d ∈ put e declarations) : d = e ∨ d ∈ declarations := by
  induction declarations with
  | nil => exact .inl (List.mem_singleton.mp h)
  | cons f rest ih =>
    unfold put at h
    split at h
    · rcases List.mem_cons.mp h with rfl | h
      · exact .inl rfl
      · exact .inr (List.mem_cons_of_mem _ h)
    · rcases List.mem_cons.mp h with rfl | h
      · exact .inr (List.mem_cons_self ..)
      · rcases ih h with rfl | h
        · exact .inl rfl
        · exact .inr (List.mem_cons_of_mem _ h)

theorem identifiers_put (e : Declaration) (declarations : List Declaration) :
    identifiers (put e declarations) =
      if e.identifier ∈ identifiers declarations then identifiers declarations
      else identifiers declarations ++ [e.identifier] := by
  unfold identifiers
  induction declarations with
  | nil => simp [put]
  | cons f rest ih =>
    by_cases h : f.identifier = e.identifier
    · simp [put, h]
    · have h' : ¬e.identifier = f.identifier := fun he => h he.symm
      simp only [put, if_neg h, List.map_cons, List.mem_cons, h', false_or, ih]
      split <;> rfl

theorem mem_identifiers_put {e : Declaration} {declarations : List Declaration}
    {identifier : String} :
    identifier ∈ identifiers (put e declarations) ↔
      identifier = e.identifier ∨ identifier ∈ identifiers declarations := by
  rw [identifiers_put]
  split
  · rename_i h
    refine ⟨.inr, ?_⟩
    rintro (rfl | h')
    · exact h
    · exact h'
  · rw [List.mem_append, List.mem_singleton, or_comm]

theorem nodup_identifiers_put {declarations : List Declaration}
    (h : (identifiers declarations).Nodup) (e : Declaration) :
    (identifiers (put e declarations)).Nodup := by
  rw [identifiers_put]
  split
  · exact h
  · rename_i hn
    refine List.nodup_append.2 ⟨h, by simp, fun a ha b hb hab => hn ?_⟩
    rw [← List.mem_singleton.mp hb, ← hab]
    exact ha

theorem mem_identifiers_of_find? {declarations : List Declaration} {identifier : String}
    {d : Declaration} (h : declarations.find? (·.identifier == identifier) = some d) :
    identifier ∈ identifiers declarations := by
  have hi : d.identifier = identifier := by simpa using List.find?_some h
  exact List.mem_map.mpr ⟨d, List.mem_of_find?_eq_some h, hi⟩

end Declaration

/-- What a run adds to the declarations that were made before. `calls` are the names that the types
of the run call objects by, `parts` the bodies that it comes to, and `active` the names of the objects
that enclose them, whose own declarations follow later. -/
structure Extends (active : List String) (calls : String → Prop) (parts : RequestBody → Prop)
    (before after : List Declaration) : Prop where
  kept : ∀ identifier ∈ Declaration.identifiers before,
    identifier ∈ Declaration.identifiers after
  distinct : (Declaration.identifiers before).Nodup → (Declaration.identifiers after).Nodup
  called : ∀ name, calls name →
    Naming.typeIdentifier name ∈ Declaration.identifiers after ∨ name ∈ active
  made : ∀ d ∈ after, d ∈ before ∨ ∃ origin required properties,
    parts (.object (some origin) required properties) ∧ d = .ofObject origin required properties ∧
      ∀ property ∈ properties, ∀ name, Calls property.2 name →
        Naming.typeIdentifier name ∈ Declaration.identifiers after ∨ name ∈ active

namespace Extends

variable {active : List String} {calls calls' : String → Prop} {parts parts' : RequestBody → Prop}
  {before between after : List Declaration}

theorem refl (h : ∀ name, calls name →
    Naming.typeIdentifier name ∈ Declaration.identifiers before ∨ name ∈ active) :
    Extends active calls parts before before where
  kept _ := id
  distinct := id
  called := h
  made _ hd := .inl hd

theorem imp (h : Extends active calls parts before after) (hcalls : ∀ name, calls' name → calls name)
    (hparts : ∀ part, parts part → parts' part) : Extends active calls' parts' before after where
  kept := h.kept
  distinct := h.distinct
  called name hname := h.called name (hcalls name hname)
  made d hd := by
    rcases h.made d hd with hd | ⟨origin, required, properties, hpart, heq, hcalled⟩
    · exact .inl hd
    · exact .inr ⟨origin, required, properties, hparts _ hpart, heq, hcalled⟩

theorem trans (h : Extends active calls parts before between)
    (h' : Extends active calls' parts' between after) :
    Extends active (fun name => calls name ∨ calls' name) (fun part => parts part ∨ parts' part)
      before after where
  kept identifier hi := h'.kept identifier (h.kept identifier hi)
  distinct hn := h'.distinct (h.distinct hn)
  called name hname := by
    rcases hname with hname | hname
    · exact (h.called name hname).imp_left (h'.kept _)
    · exact h'.called name hname
  made d hd := by
    rcases h'.made d hd with hd | ⟨origin, required, properties, hpart, heq, hcalled⟩
    · rcases h.made d hd with hd | ⟨origin, required, properties, hpart, heq, hcalled⟩
      · exact .inl hd
      · refine .inr ⟨origin, required, properties, .inl hpart, heq, fun property hp name hname => ?_⟩
        exact (hcalled property hp name hname).imp_left (h'.kept _)
    · exact .inr ⟨origin, required, properties, .inr hpart, heq, hcalled⟩

/-- Once the properties of an object have their types, the object is declared. -/
theorem close {origin : Origin} {required : List String} {properties : List (String × RequestBody)}
    (h : Extends (origin.name :: active) (fun name => ∃ p ∈ properties, Calls p.2 name)
      (fun part => ∃ p ∈ properties, Within part p.2) before after) :
    Extends active (· = origin.name)
      (Within · (.object (some origin) required properties)) before
      (Declaration.put (.ofObject origin required properties) after) := by
  have hdeclared : ∀ name, Naming.typeIdentifier name ∈ Declaration.identifiers after ∨
      name ∈ origin.name :: active →
      Naming.typeIdentifier name ∈
        Declaration.identifiers (Declaration.put (.ofObject origin required properties) after) ∨
      name ∈ active := by
    intro name hname
    rw [Declaration.mem_identifiers_put]
    rcases hname with hname | hname
    · exact .inl (.inr hname)
    · rcases List.mem_cons.mp hname with rfl | hname
      · exact .inl (.inl rfl)
      · exact .inr hname
  refine ⟨?_, ?_, ?_, ?_⟩
  · intro identifier hi
    exact Declaration.mem_identifiers_put.mpr (.inr (h.kept identifier hi))
  · intro hn
    exact Declaration.nodup_identifiers_put (h.distinct hn) _
  · rintro name rfl
    exact hdeclared _ (.inr (List.mem_cons_self ..))
  · intro d hd
    rcases Declaration.mem_put hd with rfl | hd
    · refine .inr ⟨origin, required, properties, .self, rfl, fun property hp name hname => ?_⟩
      exact hdeclared name (h.called name ⟨property, hp, hname⟩)
    · rcases h.made d hd with hd | ⟨inner, req, props, ⟨p, hp, hw⟩, heq, hcalled⟩
      · exact .inl hd
      · refine .inr ⟨inner, req, props, .property hp hw, heq, fun property hp name hname => ?_⟩
        exact hdeclared name (hcalled property hp name hname)

end Extends

namespace RequestBody

mutual

theorem type_extends {doc : Document} {room : Nat} {active : List String}
    {before after : List Declaration} {t : TypeExpr} :
    (body : RequestBody) → Fits doc room active body → body.type.run before = .ok (t, after) →
      t = outline body ∧ Extends active (Calls body) (Within · body) before after
  | .leaf type kind literals nullable description, _, h => by
    rw [run_type_leaf] at h
    cases h
    rw [outline]
    refine ⟨rfl, .refl fun name hname => ?_⟩
    cases hname
  | .cut name nullable description, hf, h => by
    rw [run_type_cut] at h
    cases h
    rw [outline]
    refine ⟨rfl, .refl fun _ hname => ?_⟩
    cases hname
    cases hf with
    | cut hn _ _ => exact .inr hn
  | .array item, hf, h => by
    rw [run_type_array] at h
    obtain ⟨⟨u, after'⟩, hr, heq⟩ := map_eq_ok_iff.mp h
    cases heq
    cases hf with
    | array hf =>
      obtain ⟨rfl, he⟩ := type_extends item hf hr
      rw [outline]
      refine ⟨rfl, he.imp (fun name hname => ?_) fun part hp => .item hp⟩
      cases hname with
      | item hname => exact hname
  | .object none required properties, hf, h => by
    rw [run_type_inline] at h
    obtain ⟨⟨fields, after'⟩, hr, heq⟩ := map_eq_ok_iff.mp h
    cases heq
    cases hf with
    | inline hf =>
      obtain ⟨rfl, he⟩ := fieldTypes_extends required properties hf hr
      rw [outline]
      refine ⟨rfl, he.imp (fun name hname => ?_) fun part ⟨p, hp, hw⟩ => .property hp hw⟩
      cases hname with
      | property hp hname => exact ⟨_, hp, hname⟩
  | .object (some origin) required properties, hf, h => by
    rw [run_type_named] at h
    have hcalls : ∀ name, Calls (.object (some origin) required properties) name →
        name = origin.name := by
      intro name hname
      cases hname
      rfl
    rw [outline]
    split at h
    · rename_i d hd
      split at h
      · cases h
        refine ⟨rfl, .refl fun name hname => ?_⟩
        rw [hcalls name hname]
        exact .inl (Declaration.mem_identifiers_of_find? hd)
      · cases h
    · obtain ⟨⟨fields, between⟩, hr, heq⟩ := map_eq_ok_iff.mp h
      cases heq
      cases hf with
      | named _ hf =>
        obtain ⟨rfl, he⟩ := fieldTypes_extends required properties hf hr
        exact ⟨rfl, he.close.imp hcalls fun _ hp => hp⟩

theorem fieldTypes_extends {doc : Document} {room : Nat} {active : List String}
    {before after : List Declaration} {fields : List (String × Bool × TypeExpr)}
    (required : List String) :
    (properties : List (String × RequestBody)) →
      (∀ property ∈ properties, Fits doc room active property.2) →
      (fieldTypes required properties).run before = .ok (fields, after) →
      fields = outlines required properties ∧
        Extends active (fun name => ∃ p ∈ properties, Calls p.2 name)
          (fun part => ∃ p ∈ properties, Within part p.2) before after
  | [], _, h => by
    rw [run_fieldTypes_nil] at h
    cases h
    rw [outlines]
    exact ⟨rfl, .refl (by simp)⟩
  | (name, body) :: rest, hf, h => by
    rw [run_fieldTypes_cons] at h
    obtain ⟨⟨t, between⟩, hfirst, h⟩ := bind_eq_ok_iff.mp h
    obtain ⟨⟨others, after'⟩, hrest, heq⟩ := map_eq_ok_iff.mp h
    cases heq
    obtain ⟨rfl, he⟩ := type_extends body (hf _ (List.mem_cons_self ..)) hfirst
    obtain ⟨rfl, he'⟩ :=
      fieldTypes_extends required rest (fun p hp => hf p (List.mem_cons_of_mem _ hp)) hrest
    rw [outlines]
    refine ⟨rfl, (he.trans he').imp (fun called hc => ?_) fun part hp => ?_⟩
    · simpa using hc
    · simpa using hp

end

end RequestBody

namespace Handler

/-- The types of the bodies call an object by this name. -/
def Call (handlers : List Handler) (name : String) : Prop :=
  ∃ handler ∈ handlers, ∃ body, handler.method.body = some body ∧ body.Calls name

/-- The body stands somewhere in those of the handlers. -/
def Part (handlers : List Handler) (part : RequestBody) : Prop :=
  ∃ handler ∈ handlers, ∃ body, handler.method.body = some body ∧ Within part body

theorem Mention.exists_part {handlers : List Handler} {name : String} (h : Mention handlers name) :
    ∃ part, Part handlers part ∧ part.name? = some name := by
  obtain ⟨handler, hh, body, hb, part, hp, hn⟩ := h
  exact ⟨part, ⟨handler, hh, body, hb, hp⟩, hn⟩

theorem Part.mention {handlers : List Handler} {part : RequestBody} {name : String}
    (h : Part handlers part) (hn : part.name? = some name) : Mention handlers name := by
  obtain ⟨handler, hh, body, hb, hp⟩ := h
  exact ⟨handler, hh, body, hb, part, hp, hn⟩

theorem Part.inner {handlers : List Handler} {part inner : RequestBody} (h : Part handlers part)
    (hw : Within inner part) : Part handlers inner := by
  obtain ⟨handler, hh, body, hb, hp⟩ := h
  exact ⟨handler, hh, body, hb, hw.trans hp⟩

end Handler

namespace ServiceFunction

/-- The function of a handler, whose body has the type that it always has. -/
def outlined (handler : Handler) : ServiceFunction :=
  ofBodyType handler (handler.method.body.map fun body => bodyNaming handler body body.outline)

variable {doc : Document} {room : Nat}

theorem ofHandler_extends {handler : Handler}
    (hf : ∀ body, handler.method.body = some body → Fits doc room [] body)
    {before after : List Declaration} {function : ServiceFunction}
    (h : (ofHandler handler).run before = .ok (function, after)) :
    function = outlined handler ∧
      Extends [] (Handler.Call [handler]) (Handler.Part [handler]) before after := by
  rw [run_ofHandler] at h
  obtain ⟨⟨named, after'⟩, hr, heq⟩ := map_eq_ok_iff.mp h
  cases heq
  unfold outlined
  cases hb : handler.method.body with
  | none =>
    rw [run_bodyType_none hb] at hr
    cases hr
    refine ⟨rfl, .refl ?_⟩
    rintro name ⟨other, ho, body, hbody, -⟩
    rw [List.mem_singleton.mp ho, hb] at hbody
    cases hbody
  | some body =>
    rw [run_bodyType_some hb] at hr
    obtain ⟨⟨t, between⟩, hr, heq⟩ := map_eq_ok_iff.mp hr
    cases heq
    obtain ⟨rfl, he⟩ := type_extends body (hf body hb) hr
    refine ⟨rfl, he.imp ?_ fun part hp => ⟨handler, List.mem_singleton.mpr rfl, body, hb, hp⟩⟩
    rintro name ⟨other, ho, found, hfound, hc⟩
    rw [List.mem_singleton.mp ho, hb] at hfound
    cases hfound
    exact hc

theorem mapM_ofHandler_extends {handlers : List Handler}
    (hf : ∀ handler ∈ handlers, ∀ body, handler.method.body = some body → Fits doc room [] body)
    {before after : List Declaration} {functions : List ServiceFunction}
    (h : (handlers.mapM ofHandler).run before = .ok (functions, after)) :
    functions = handlers.map outlined ∧
      Extends [] (Handler.Call handlers) (Handler.Part handlers) before after := by
  induction handlers generalizing before functions with
  | nil =>
    cases h
    refine ⟨rfl, .refl ?_⟩
    rintro name ⟨handler, hh, -⟩
    cases hh
  | cons handler rest ih =>
    simp only [List.mapM_cons, StateT.run_bind, StateT.run_pure, bind_eq_ok_iff] at h
    obtain ⟨⟨function, between⟩, hfirst, ⟨others, last⟩, hrest, heq⟩ := h
    cases heq
    obtain ⟨rfl, he⟩ := ofHandler_extends (hf handler (List.mem_cons_self ..)) hfirst
    obtain ⟨rfl, he'⟩ := ih (fun other ho => hf other (List.mem_cons_of_mem _ ho)) hrest
    refine ⟨rfl, (he.trans he').imp ?_ ?_⟩
    · rintro name ⟨other, ho, hname⟩
      rcases List.mem_cons.mp ho with rfl | ho
      · exact .inl ⟨other, List.mem_singleton.mpr rfl, hname⟩
      · exact .inr ⟨other, ho, hname⟩
    · rintro part (⟨other, ho, hp⟩ | ⟨other, ho, hp⟩)
      · exact ⟨other, List.mem_cons.mpr (.inl (List.mem_singleton.mp ho)), hp⟩
      · exact ⟨other, List.mem_cons_of_mem _ ho, hp⟩

end ServiceFunction

/-- A service has the functions of its handlers, and declarations for all that their types call
by name. -/
theorem ModuleService.extends_of_ofHandlers {doc : Document} {room : Nat} {handlers : List Handler}
    (hf : ∀ handler ∈ handlers, ∀ body, handler.method.body = some body → Fits doc room [] body)
    {service : ModuleService} (h : ofHandlers handlers = .ok service) :
    service.functions = handlers.map ServiceFunction.outlined ∧
      Extends [] (Handler.Call handlers) (Handler.Part handlers) [] service.declarations := by
  obtain ⟨⟨functions, declarations⟩, hr, hs⟩ := bind_eq_ok_iff.mp h
  dsimp only at hs
  split at hs
  · cases hs
  · cases hs
    exact ServiceFunction.mapM_ofHandler_extends hf hr

end OpenApiGen
