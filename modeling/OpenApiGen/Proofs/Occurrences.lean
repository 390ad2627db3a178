import OpenApiGen.Proofs.BodyOutlines
import OpenApiGen.Proofs.ExtractedBodies

/-!
# The bodies that a schema gives in different places

What encloses a schema decides where its body is cut. So the bodies that it gives in two places may
differ, but not above the objects that have names, unless parts of them were given up.
-/

namespace OpenApiGen

namespace RequestBody

/-- The schema that a cut or an object stands for. -/
def called? : RequestBody → Option String
  | .cut name _ _ => some name
  | .object origin _ _ => origin.map Origin.name
  | _ => none

/-- Two bodies of one schema, compared down to the objects that have names. -/
inductive Alike (lossy : Prop) : RequestBody → RequestBody → Prop
  | lost {description b} (h : lossy) : Alike lossy (untyped description) b
  | lostRight {a description} (h : lossy) : Alike lossy a (untyped description)
  | nowhere {description} : Alike lossy (untyped description) (untyped description)
  | leaf {schema : Schema} (hr : schema.reference = none) (ho : schema.kind ≠ .object)
      (ha : schema.kind ≠ .array) : Alike lossy (ofLeaf schema) (ofLeaf schema)
  | called {a b name} (ha : a.called? = some name) (hb : b.called? = some name) : Alike lossy a b
  | array {a b} (h : Alike lossy a b) : Alike lossy (.array a) (.array b)
  | inline {required properties} (left right : Schema → Option RequestBody)
      (h : ∀ property ∈ properties, Alike lossy
        ((left property.2).getD (untyped property.2.description))
        ((right property.2).getD (untyped property.2.description))) :
      Alike lossy (.object none required (bodiesOf properties left))
        (.object none required (bodiesOf properties right))

theorem calls_of_called? {body : RequestBody} {name : String} (h : body.called? = some name) :
    Calls body name := by
  cases body with
  | leaf => cases h
  | array => cases h
  | cut =>
    cases h
    exact .cut
  | object origin =>
    obtain ⟨o, rfl, rfl⟩ := Option.map_eq_some_iff.mp h
    exact .named

theorem outline_of_called? {body : RequestBody} {name : String} (h : body.called? = some name) :
    outline body = .named (Naming.typeIdentifier name) := by
  cases body with
  | leaf => cases h
  | array => cases h
  | cut =>
    cases h
    rw [outline]
  | object origin =>
    obtain ⟨o, rfl, rfl⟩ := Option.map_eq_some_iff.mp h
    rw [outline]

/-- The properties of one schema in two places. -/
def AlikeProperties (lossy : Prop) (left right : List (String × RequestBody)) : Prop :=
  List.Forall₂ (fun p q => p.1 = q.1 ∧ Alike lossy p.2 q.2) left right

theorem alikeProperties_bodiesOf {lossy : Prop} {properties : List (String × Schema)}
    {left right : Schema → Option RequestBody}
    (h : ∀ property ∈ properties, Alike lossy
      ((left property.2).getD (untyped property.2.description))
      ((right property.2).getD (untyped property.2.description))) :
    AlikeProperties lossy (bodiesOf properties left) (bodiesOf properties right) := by
  unfold AlikeProperties bodiesOf
  rw [List.forall₂_map_left_iff, List.forall₂_map_right_iff, List.forall₂_same]
  exact fun property hp => ⟨rfl, h property hp⟩

namespace Alike

variable {lossy : Prop} {a : RequestBody}

theorem of_array {item : RequestBody} (h : Alike lossy a (.array item)) :
    (lossy ∧ ∃ description, a = untyped description) ∨
      ∃ other, a = .array other ∧ Alike lossy other item := by
  cases h with
  | lost hlossy => exact .inl ⟨hlossy, _, rfl⟩
  | called ha hb => cases hb
  | array h => exact .inr ⟨_, rfl, h⟩

theorem of_inline {required : List String} {properties : List (String × RequestBody)}
    (h : Alike lossy a (.object none required properties)) :
    (lossy ∧ ∃ description, a = untyped description) ∨
      ∃ left, a = .object none required left ∧ AlikeProperties lossy left properties := by
  cases h with
  | lost hlossy => exact .inl ⟨hlossy, _, rfl⟩
  | called ha hb => cases hb
  | inline left right h => exact .inr ⟨_, rfl, alikeProperties_bodiesOf h⟩

theorem of_named {origin : Origin} {required : List String}
    {properties : List (String × RequestBody)}
    (h : Alike lossy a (.object (some origin) required properties)) :
    (lossy ∧ ∃ description, a = untyped description) ∨ a.called? = some origin.name := by
  cases h with
  | lost hlossy => exact .inl ⟨hlossy, _, rfl⟩
  | called ha hb =>
    cases hb
    exact .inr ha

end Alike

theorem Leads.target_eq {doc : Document} {schema target : Schema} {next : Origin}
    (h : Leads doc schema next target) {reference : String}
    (hr : schema.reference = some reference) :
    (Reference.componentName? reference .schemas).bind doc.schema? = some target := by
  obtain ⟨hnext, hn, ht⟩ := h
  cases hnext.symm.trans hr
  rw [hn, Option.bind_some, ht]

namespace Outcome

variable {doc : Document} {lossy : Prop} {depth depth' : Nat} {enclosing enclosing' : List String}
  {origin origin' : Option Origin} {schema : Schema} {result result' : Option RequestBody}

/-- A reference that leads nowhere is given up, or gives nothing. -/
theorem of_nowhere (h : Outcome doc lossy depth enclosing origin schema result) {reference : String}
    (hr : schema.reference = some reference)
    (hnowhere : (Reference.componentName? reference .schemas).bind doc.schema? = none) :
    (lossy ∧ ∃ description, result = some (untyped description)) ∨ result = none := by
  cases h with
  | truncated hd hlossy => exact .inl ⟨hlossy, _, rfl⟩
  | foreign => exact .inr rfl
  | missing => exact .inr rfl
  | cut hd hl => cases hnowhere.symm.trans (hl.target_eq hr)
  | looped hd hl => cases hnowhere.symm.trans (hl.target_eq hr)
  | follow hd hl => cases hnowhere.symm.trans (hl.target_eq hr)
  | object hd hk => cases hk.symm.trans (Schema.kind_of_reference hr)
  | itemless hd hk => cases hk.symm.trans (Schema.kind_of_reference hr)
  | array hd hk => cases hk.symm.trans (Schema.kind_of_reference hr)
  | leaf hd hn => cases hn.symm.trans hr

/-- By induction on the first outcome. The second one follows the same references, unless it meets
a name that encloses it, and that name stands for an object in both. -/
theorem alike (h : Outcome doc lossy depth enclosing origin schema result)
    (h' : Outcome doc lossy depth' enclosing' origin' schema result')
    (horigin : origin.map Origin.name = origin'.map Origin.name) {description : Option String} :
    Alike lossy (result.getD (untyped description)) (result'.getD (untyped description)) := by
  induction h generalizing depth' enclosing' origin' result' description with
  | truncated hd hlossy => exact .lost hlossy
  | foreign hd hr hn =>
    rcases h'.of_nowhere hr (by simp [hn]) with ⟨hlossy, _, rfl⟩ | rfl
    · exact .lostRight hlossy
    · exact .nowhere
  | missing hd hr hn ht =>
    rcases h'.of_nowhere hr (by simp [hn, ht]) with ⟨hlossy, _, rfl⟩ | rfl
    · exact .lostRight hlossy
    · exact .nowhere
  | cut hd hl hn hk =>
    rcases h'.of_leads hl with ⟨hlossy, _, rfl⟩ | ⟨-, _, _, rfl⟩ | ⟨_, _, hnext⟩
    · exact .lostRight hlossy
    · exact .called rfl rfl
    · rcases hnext.of_object hk with ⟨hlossy, _, rfl⟩ | ⟨_, _, _, rfl, -⟩
      · exact .lostRight hlossy
      · exact .called rfl rfl
  | looped hd hl hn hk hlossy => exact .lost hlossy
  | follow hd hl hn h ih =>
    rcases h'.of_leads hl with ⟨hlossy, _, rfl⟩ | ⟨hk, _, _, rfl⟩ | ⟨_, _, hnext⟩
    · exact .lostRight hlossy
    · rcases h.of_object hk with ⟨hlossy, _, rfl⟩ | ⟨_, _, _, rfl, -⟩
      · exact .lost hlossy
      · exact .called rfl rfl
    · exact ih hnext rfl
  | @object depth enclosing origin schema hd hk resultOf h ih =>
    rcases h'.of_object hk with ⟨hlossy, _, rfl⟩ | ⟨resultOf', _, _, rfl, hproperties⟩
    · exact .lostRight hlossy
    · cases origin with
      | some o => exact .called rfl horigin.symm
      | none =>
        obtain rfl : origin' = none := by simpa using horigin.symm
        exact .inline _ _ fun property hp => ih property hp (hproperties property hp) rfl
  | itemless hd hk hi =>
    rcases h'.of_array hk with ⟨hlossy, _, rfl⟩ | ⟨-, rfl⟩ | ⟨items, _, _, _, hitems, -, -⟩
    · exact .lostRight hlossy
    · exact .array .nowhere
    · cases hi.symm.trans hitems
  | array hd hk hi h ih =>
    rcases h'.of_array hk with ⟨hlossy, _, rfl⟩ | ⟨hitems, -⟩ | ⟨items, _, _, _, hitems, rfl, hitem⟩
    · exact .lostRight hlossy
    · cases hi.symm.trans hitems
    · cases hi.symm.trans hitems
      exact .array (ih hitem rfl)
  | leaf hd hr ho ha =>
    rcases h'.of_leaf hr ho ha with ⟨hlossy, _, rfl⟩ | rfl
    · exact .lostRight hlossy
    · exact .leaf hr ho ha

end Outcome

/-- The properties of an object of this name, as its schema gives them in some place. -/
inductive Occurrence (doc : Document) (lossy : Prop) :
    String → List String → List (String × RequestBody) → Prop
  | intro {name schema depth enclosing} (hs : doc.schema? name = some schema)
      (resultOf : Schema → Option RequestBody)
      (h : ∀ property ∈ schema.properties,
        Outcome doc lossy depth enclosing none property.2 (resultOf property.2)) :
      Occurrence doc lossy name schema.required (bodiesOf schema.properties resultOf)

variable {doc : Document} {lossy : Prop}

theorem Occurrence.alike {name : String} {required required' : List String}
    {properties properties' : List (String × RequestBody)}
    (h : Occurrence doc lossy name required properties)
    (h' : Occurrence doc lossy name required' properties') :
    required = required' ∧ AlikeProperties lossy properties properties' := by
  obtain ⟨hs, left, hleft⟩ := h
  obtain ⟨hs', right, hright⟩ := h'
  cases hs.symm.trans hs'
  refine ⟨rfl, alikeProperties_bodiesOf fun property hp => ?_⟩
  exact (hleft property hp).alike (hright property hp) rfl

theorem within_getD {part : RequestBody} {result : Option RequestBody} {name : String}
    (hn : part.name? = some name) {description : Option String}
    (h : Within part (result.getD (untyped description))) :
    ∃ body, result = some body ∧ Within part body := by
  cases result with
  | some body => exact ⟨body, rfl, h⟩
  | none =>
    cases h
    cases hn

/-- The objects with names inside of a body have the properties of their schemas. -/
theorem Outcome.occurrence {depth : Nat} {enclosing : List String} {origin : Option Origin}
    {schema : Schema} {result : Option RequestBody}
    (h : Outcome doc lossy depth enclosing origin schema result)
    (hreached : ∀ o, origin = some o → doc.schema? o.name = some schema)
    {body : RequestBody} (hbody : result = some body) {inner : Origin} {required : List String}
    {properties : List (String × RequestBody)}
    (hw : Within (.object (some inner) required properties) body) :
    Occurrence doc lossy inner.name required properties := by
  induction h generalizing body with
  | truncated =>
    cases hbody
    cases hw
  | foreign => cases hbody
  | missing => cases hbody
  | cut =>
    cases hbody
    cases hw
  | looped =>
    cases hbody
    cases hw
  | follow hd hl hn _ ih =>
    refine ih (fun o ho => ?_) hbody hw
    cases ho
    exact hl.2.2
  | object hd hk resultOf h ih =>
    cases hbody
    cases hw with
    | self => exact .intro (hreached inner rfl) resultOf h
    | property hp hw =>
      obtain ⟨property, hmem, rfl⟩ := List.mem_map.mp hp
      obtain ⟨body, hresult, hw⟩ := within_getD rfl hw
      exact ih property hmem (by simp) hresult hw
  | itemless =>
    cases hbody
    cases hw with
    | item hw => cases hw
  | array hd hk hi _ ih =>
    cases hbody
    cases hw with
    | item hw =>
      obtain ⟨body, hresult, hw⟩ := within_getD rfl hw
      exact ih (by simp) hresult hw
  | leaf =>
    cases hbody
    cases hw

/-- The types in a body call objects that stand in it, or that enclose it. -/
theorem Fits.mentions_of_calls {room : Nat} {names : List String} {part body : RequestBody}
    {name : String} (hw : Within part body) (hf : Fits doc room names body) (hc : Calls part name) :
    name ∈ names ∨ Mentions body name := by
  induction hw generalizing room names with
  | self =>
    induction hc generalizing room with
    | cut =>
      cases hf with
      | cut hn => exact .inl hn
    | named => exact .inr (mentions_self _ _ _)
    | item _ ih =>
      cases hf with
      | array hf => exact (ih hf).imp_right fun hm => hm.within (.item .self)
    | property hp _ ih =>
      cases hf with
      | inline hf => exact (ih (hf _ hp)).imp_right fun hm => hm.within (within_property hp)
  | item _ ih =>
    cases hf with
    | array hf => exact (ih hf).imp_right fun hm => hm.within (.item .self)
  | property hp _ ih =>
    cases hf with
    | inline hf => exact (ih (hf _ hp)).imp_right fun hm => hm.within (within_property hp)
    | named _ hf =>
      rcases ih (hf _ hp) with hn | hm
      · rcases List.mem_cons.mp hn with rfl | hn
        · exact .inr (mentions_self _ _ _)
        · exact .inl hn
      · exact .inr (hm.within (within_property hp))

end RequestBody

namespace Handler

open RequestBody

variable {doc : Document} {lossy : Prop} {handlers : List Handler}

/-- The bodies of the handlers are those of schemas. -/
def Flattened (doc : Document) (lossy : Prop) (handlers : List Handler) : Prop :=
  ∀ handler ∈ handlers, ∀ body, handler.method.body = some body →
    ∃ schema, Outcome doc lossy 0 [] none schema (some body)

theorem flattened_of_ofModule {bearer : String} {module : ModuleRoutes}
    (hmodule : (doc.extractModule bearer module.module).outcome = .ok module)
    (hhandlers : ofModule module = .ok handlers)
    (hlossy : ∀ event ∈ (doc.extractModule bearer module.module).events, event.isLossy → lossy) :
    Flattened doc lossy handlers := by
  intro handler hh body hb
  obtain ⟨schema, hvalue, hevents⟩ := exists_flatten_of_ofModule hmodule hhandlers hh hb
  refine ⟨schema, ?_⟩
  rw [← hvalue]
  exact outcome_flatten fun event he => hlossy event (hevents he)

namespace Flattened

theorem fits (h : Flattened doc lossy handlers) {handler : Handler} (hh : handler ∈ handlers)
    {body : RequestBody} (hb : handler.method.body = some body) : Fits doc (deepest + 1) [] body := by
  obtain ⟨schema, ho⟩ := h handler hh body hb
  exact fits_of_flatten (ho.value_eq rfl)

theorem occurrence (h : Flattened doc lossy handlers) {origin : Origin} {required : List String}
    {properties : List (String × RequestBody)}
    (hp : Part handlers (.object (some origin) required properties)) :
    Occurrence doc lossy origin.name required properties := by
  obtain ⟨handler, hh, body, hb, hw⟩ := hp
  obtain ⟨schema, ho⟩ := h handler hh body hb
  exact ho.occurrence (by simp) rfl hw

theorem mention_of_calls (h : Flattened doc lossy handlers) {part : RequestBody} {name : String}
    (hp : Part handlers part) (hc : part.Calls name) : Mention handlers name := by
  obtain ⟨handler, hh, body, hb, hw⟩ := hp
  rcases (h.fits hh hb).mentions_of_calls hw hc with hn | hm
  · cases hn
  · exact ⟨handler, hh, body, hb, hm⟩

end Flattened
end Handler
end OpenApiGen
