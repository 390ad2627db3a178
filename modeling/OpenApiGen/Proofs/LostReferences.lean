import OpenApiGen.Proofs.FlatteningOutcomes
import OpenApiGen.Proofs.SchemaWalks

/-!
# References that lead nowhere

A body is left out if the references at its top end at one that leads nowhere. Below the top such a
reference leaves its own place untyped, and all that stands beside it or around it as it is.
-/

namespace OpenApiGen.RequestBody

/-- The reference is none to a schema component, or there is no schema of the name that it gives. -/
def LeadsNowhere (doc : Document) (reference : String) : Prop :=
  Reference.componentName? reference .schemas = none ∨
    ∃ name, Reference.componentName? reference .schemas = some name ∧ doc.schema? name = none

/-- The schema's own reference, that of its target, and so on, by the names that they give. -/
inductive Chain (doc : Document) : Schema → List String → Schema → Prop
  | stop {schema} : Chain doc schema [] schema
  | follow {schema next target names last} (hl : Leads doc schema next target)
      (h : Chain doc target names last) : Chain doc schema (next.name :: names) last

/-- From this depth on, and without one of the names that are being followed, the chain comes to a
reference that leads nowhere. -/
def Lost (doc : Document) (depth : Nat) (enclosing : List String) (schema : Schema) : Prop :=
  ∃ names last reference, Chain doc schema names last ∧ names.Nodup ∧
    (∀ name ∈ names, name ∉ enclosing) ∧ depth + names.length ≤ deepest ∧
      last.reference = some reference ∧ LeadsNowhere doc reference

variable {doc : Document} {lossy : Prop} {depth : Nat} {enclosing : List String}
  {origin : Option Origin} {schema : Schema} {result : Option RequestBody}

theorem LeadsNowhere.not_leads {reference : String} (h : LeadsNowhere doc reference)
    (hr : schema.reference = some reference) {next : Origin} {target : Schema} :
    ¬Leads doc schema next target := by
  rintro ⟨hr', hn, ht⟩
  cases hr.symm.trans hr'
  rcases h with hnone | ⟨name, hname, hmissing⟩
  · cases hn.symm.trans hnone
  · cases hn.symm.trans hname
    cases ht.symm.trans hmissing

theorem Lost.depth_le (h : Lost doc depth enclosing schema) : depth ≤ deepest := by
  obtain ⟨names, last, reference, -, -, -, hlength, -⟩ := h
  omega

theorem Lost.reference_ne_none (h : Lost doc depth enclosing schema) : schema.reference ≠ none := by
  obtain ⟨names, last, reference, hchain, -, -, -, hr, -⟩ := h
  cases hchain with
  | stop => simp [hr]
  | follow hl _ => simp [hl.1]

theorem Lost.kind (h : Lost doc depth enclosing schema) : schema.kind = .reference := by
  obtain ⟨reference, hr⟩ := Option.ne_none_iff_exists'.mp h.reference_ne_none
  exact Schema.kind_of_reference hr

theorem lost_of_leadsNowhere {reference : String} (hd : depth ≤ deepest)
    (hr : schema.reference = some reference) (h : LeadsNowhere doc reference) :
    Lost doc depth enclosing schema :=
  ⟨[], schema, reference, .stop, List.nodup_nil, by simp, by simpa using hd, hr, h⟩

theorem lost_iff_of_leads {next : Origin} {target : Schema} (hl : Leads doc schema next target) :
    Lost doc depth enclosing schema ↔
      next.name ∉ enclosing ∧ Lost doc (depth + 1) (next.name :: enclosing) target := by
  constructor
  · rintro ⟨names, last, reference, hchain, hnodup, hnew, hlength, hr, hnowhere⟩
    cases hchain with
    | stop => exact absurd hl (hnowhere.not_leads hr)
    | @follow _ next' target' names _ hl' hchain =>
      obtain ⟨rfl, rfl⟩ := hl.unique hl'
      obtain ⟨hfirst, hnodup⟩ := List.nodup_cons.mp hnodup
      obtain ⟨hnext, hnew⟩ := List.forall_mem_cons.mp hnew
      refine ⟨hnext, names, last, reference, hchain, hnodup, fun name hname => ?_, ?_, hr, hnowhere⟩
      · rw [List.mem_cons, not_or]
        refine ⟨?_, hnew name hname⟩
        rintro rfl
        exact hfirst hname
      · rw [List.length_cons] at hlength
        omega
  · rintro ⟨hnext, names, last, reference, hchain, hnodup, hnew, hlength, hr, hnowhere⟩
    refine ⟨next.name :: names, last, reference, .follow hl hchain, List.nodup_cons.mpr ⟨?_, hnodup⟩,
      List.forall_mem_cons.mpr ⟨hnext, fun name hname => ?_⟩, ?_, hr, hnowhere⟩
    · intro hmem
      exact hnew _ hmem (List.mem_cons_self ..)
    · exact fun hold => hnew name hname (List.mem_cons_of_mem _ hold)
    · rw [List.length_cons]
      omega

/-- Nothing is given exactly if the chain is lost before it is cut or given up. -/
theorem Outcome.eq_none_iff (h : Outcome doc lossy depth enclosing origin schema result) :
    result = none ↔ Lost doc depth enclosing schema := by
  induction h with
  | truncated hd => exact iff_of_false nofun fun hlost => absurd hlost.depth_le (by omega)
  | foreign hd hr hn => exact iff_of_true rfl (lost_of_leadsNowhere hd hr (.inl hn))
  | missing hd hr hn ht =>
    exact iff_of_true rfl (lost_of_leadsNowhere hd hr (.inr ⟨_, hn, ht⟩))
  | cut hd hl hn hk =>
    exact iff_of_false nofun fun hlost => ((lost_iff_of_leads hl).mp hlost).1 hn
  | looped hd hl hn hk =>
    exact iff_of_false nofun fun hlost => ((lost_iff_of_leads hl).mp hlost).1 hn
  | follow hd hl hn _ ih => rw [ih, lost_iff_of_leads hl, and_iff_right hn]
  | object hd hk =>
    refine iff_of_false nofun fun hlost => ?_
    cases hlost.kind.symm.trans hk
  | itemless hd hk =>
    refine iff_of_false nofun fun hlost => ?_
    cases hlost.kind.symm.trans hk
  | array hd hk =>
    refine iff_of_false nofun fun hlost => ?_
    cases hlost.kind.symm.trans hk
  | leaf hd hr => exact iff_of_false nofun fun hlost => hlost.reference_ne_none hr

theorem Chain.resolves {names : List String} {last holder : Schema} (h : Chain doc schema names last)
    (hr : Resolves doc schema holder) : Resolves doc last holder := by
  induction h with
  | stop => exact hr
  | follow hl _ ih =>
    cases hr with
    | stop hnone => cases hl.1.symm.trans hnone
    | follow hl' hr =>
      obtain ⟨rfl, rfl⟩ := hl.unique hl'
      exact ih hr

/-- Where the references at the top come to an end, nothing else matters. -/
theorem Lost.not_resolves (h : Lost doc depth enclosing schema) (holder : Schema) :
    ¬Resolves doc schema holder := by
  obtain ⟨names, last, reference, hchain, -, -, -, hr, hnowhere⟩ := h
  intro hresolves
  cases hchain.resolves hresolves with
  | stop hnone => cases hr.symm.trans hnone
  | follow hl _ => exact hnowhere.not_leads hr hl

/-! ## Places below the top -/

/-- The part of a body at the end of a walk, which ends where the body does. -/
def at? : List Step → RequestBody → Option RequestBody
  | [], body => some body
  | .property key :: steps, .object _ _ properties =>
    (KeyedList.find? key properties).bind (at? steps)
  | .item :: steps, .array item => at? steps item
  | _ :: _, _ => none

theorem eq_of_at?_untyped {steps : List Step} {description : Option String} {part : RequestBody}
    (h : at? steps (untyped description) = some part) : steps = [] ∧ part = untyped description := by
  cases steps with
  | nil =>
    cases h
    exact ⟨rfl, rfl⟩
  | cons step steps =>
    rw [untyped] at h
    cases step <;> simp [at?] at h

theorem eq_of_at?_cut {steps : List Step} {name : String} {nullable : Bool}
    {description : Option String} {part : RequestBody}
    (h : at? steps (.cut name nullable description) = some part) :
    steps = [] ∧ part = .cut name nullable description := by
  cases steps with
  | nil =>
    cases h
    exact ⟨rfl, rfl⟩
  | cons step steps => cases step <;> simp [at?] at h

theorem find?_bodiesOf (key : String) (properties : List (String × Schema))
    (resultOf : Schema → Option RequestBody) :
    KeyedList.find? key (bodiesOf properties resultOf) =
      (KeyedList.find? key properties).map fun property =>
        (resultOf property).getD (untyped property.description) :=
  KeyedList.find?_map (fun property => (resultOf property).getD (untyped property.description)) key
    properties

theorem reaches_of_leads {next : Origin} {target holder : Schema} {steps : List Step}
    (hl : Leads doc schema next target) (h : Reaches doc target steps holder) :
    Reaches doc schema steps holder := by
  cases h with
  | stop h => exact .stop (.follow hl h)
  | property h hk hp hs => exact .property (.follow hl h) hk hp hs
  | item h hk hi hs => exact .item (.follow hl h) hk hi hs

/-- Leaves and cuts have no parts. -/
def hasParts : RequestBody → Bool
  | .leaf .. | .cut .. => false
  | .object .. | .array _ => true

/-- A part with parts of its own stands where the same walk through the schemas comes to the schema
that it is made of. -/
theorem Outcome.exists_holder (h : Outcome doc lossy depth enclosing origin schema result)
    {steps : List Step} (description : Option String) {part : RequestBody}
    (hat : at? steps (result.getD (untyped description)) = some part) (hpart : part.hasParts) :
    ∃ holder depth' enclosing' origin', Reaches doc schema steps holder ∧
      holder.reference = none ∧ Outcome doc lossy depth' enclosing' origin' holder (some part) := by
  have huntyped : ∀ {steps description}, at? steps (untyped description) ≠ some part := by
    intro steps description hat
    rw [(eq_of_at?_untyped hat).2] at hpart
    cases hpart
  induction h generalizing steps description with
  | truncated => exact absurd hat huntyped
  | foreign => exact absurd hat huntyped
  | missing => exact absurd hat huntyped
  | looped => exact absurd hat huntyped
  | cut =>
    rw [(eq_of_at?_cut hat).2] at hpart
    cases hpart
  | follow hd hl hn _ ih =>
    obtain ⟨holder, depth', enclosing', origin', hreaches, hr, ho⟩ := ih _ hat
    exact ⟨holder, depth', enclosing', origin', reaches_of_leads hl hreaches, hr, ho⟩
  | @object depth enclosing origin schema hd hk resultOf hproperties ih =>
    have hr : schema.reference = none := Schema.reference_eq_none (by simp [hk])
    rw [Option.getD_some] at hat
    match steps with
    | [] =>
      cases hat
      exact ⟨schema, depth, enclosing, origin, .stop (.stop hr), hr,
        .object hd hk resultOf hproperties⟩
    | .property key :: steps =>
      rw [at?, Option.bind_eq_some_iff] at hat
      obtain ⟨body, hbody, hat⟩ := hat
      rw [find?_bodiesOf, Option.map_eq_some_iff] at hbody
      obtain ⟨property, hfind, rfl⟩ := hbody
      obtain ⟨holder, depth', enclosing', origin', hreaches, hown, ho⟩ :=
        ih _ (KeyedList.mem_of_find? hfind) _ hat
      exact ⟨holder, depth', enclosing', origin', .property (.stop hr) hk hfind hreaches, hown, ho⟩
    | .item :: steps => simp [at?] at hat
  | @itemless depth enclosing origin schema hd hk hi =>
    have hr : schema.reference = none := Schema.reference_eq_none (by simp [hk])
    rw [Option.getD_some] at hat
    match steps with
    | [] =>
      cases hat
      exact ⟨schema, depth, enclosing, origin, .stop (.stop hr), hr, .itemless hd hk hi⟩
    | .property key :: steps => simp [at?] at hat
    | .item :: steps =>
      rw [at?] at hat
      exact absurd hat huntyped
  | @array depth enclosing origin schema items item hd hk hi hitem ih =>
    have hr : schema.reference = none := Schema.reference_eq_none (by simp [hk])
    rw [Option.getD_some] at hat
    match steps with
    | [] =>
      cases hat
      exact ⟨schema, depth, enclosing, origin, .stop (.stop hr), hr, .array hd hk hi hitem⟩
    | .property key :: steps => simp [at?] at hat
    | .item :: steps =>
      rw [at?] at hat
      obtain ⟨holder, depth', enclosing', origin', hreaches, hown, ho⟩ := ih _ hat
      exact ⟨holder, depth', enclosing', origin', .item (.stop hr) hk hi hreaches, hown, ho⟩
  | leaf =>
    rw [Option.getD_some, ofLeaf] at hat
    match steps with
    | [] =>
      cases hat
      cases hpart
    | .property key :: steps => simp [at?] at hat
    | .item :: steps => simp [at?] at hat

theorem Outcome.of_leadsNowhere (h : Outcome doc lossy depth enclosing origin schema result)
    {reference : String} (hr : schema.reference = some reference)
    (hnowhere : LeadsNowhere doc reference) :
    result = none ∨ result = some (untyped schema.description) := by
  by_cases hd : depth ≤ deepest
  · exact .inl (h.eq_none_iff.mpr (lost_of_leadsNowhere hd hr hnowhere))
  · cases h with
    | truncated => exact .inr rfl
    | _ => contradiction

/-- A property stands in the body under its key, without a type if its reference leads nowhere. -/
def Keeps (doc : Document) (property : String × Schema) (field : String × RequestBody) : Prop :=
  field.1 = property.1 ∧ ∀ reference, property.2.reference = some reference →
    LeadsNowhere doc reference → field.2 = untyped property.2.description

theorem keeps_bodiesOf {properties : List (String × Schema)}
    {resultOf : Schema → Option RequestBody}
    (h : ∀ property ∈ properties,
      Outcome doc lossy depth enclosing none property.2 (resultOf property.2)) :
    List.Forall₂ (Keeps doc) properties (bodiesOf properties resultOf) := by
  rw [bodiesOf, List.forall₂_map_right_iff, List.forall₂_same]
  intro property hp
  refine ⟨rfl, fun reference hr hnowhere => ?_⟩
  rcases (h property hp).of_leadsNowhere hr hnowhere with hresult | hresult
  · rw [hresult, Option.getD_none]
  · rw [hresult, Option.getD_some]

theorem Outcome.keeps_of_object {reached : Option Origin} {required : List String}
    {properties : List (String × RequestBody)}
    (h : Outcome doc lossy depth enclosing origin schema
      (some (.object reached required properties)))
    (hr : schema.reference = none) : schema.kind = .object ∧ required = schema.required ∧
      List.Forall₂ (Keeps doc) schema.properties properties := by
  cases h with
  | follow hd hl => cases hr.symm.trans hl.1
  | object hd hk resultOf h => exact ⟨hk, rfl, keeps_bodiesOf h⟩

theorem Outcome.untyped_of_array {item : RequestBody}
    (h : Outcome doc lossy depth enclosing origin schema (some (.array item)))
    (hr : schema.reference = none) : schema.kind = .array ∧
      ∀ items reference, schema.items = some items → items.reference = some reference →
        LeadsNowhere doc reference → ∃ description, item = untyped description := by
  cases h with
  | follow hd hl => cases hr.symm.trans hl.1
  | itemless hd hk hi => exact ⟨hk, fun items reference hi' => by cases hi.symm.trans hi'⟩
  | array hd hk hi h =>
    refine ⟨hk, fun items reference hi' hr hnowhere => ?_⟩
    cases hi.symm.trans hi'
    rcases h.of_leadsNowhere hr hnowhere with rfl | rfl
    · exact ⟨_, rfl⟩
    · exact ⟨_, rfl⟩

/-- The way into a body ends early: at a cut, or at a part that was given up. -/
inductive Stopped (lossy : Prop) : RequestBody → Prop
  | cut {name nullable description} : Stopped lossy (.cut name nullable description)
  | lost {description} (hlossy : lossy) : Stopped lossy (untyped description)

theorem Outcome.of_resolves {holder : Schema} (hresolves : Resolves doc schema holder)
    (h : Outcome doc lossy depth enclosing origin schema result) :
    (∃ part, result = some part ∧ Stopped lossy part) ∨
      ∃ depth' enclosing' origin', Outcome doc lossy depth' enclosing' origin' holder result := by
  induction hresolves generalizing depth enclosing origin with
  | stop => exact .inr ⟨_, _, _, h⟩
  | follow hl _ ih =>
    rcases h.of_leads hl with ⟨hlossy, description, rfl⟩ | ⟨-, nullable, description, rfl⟩ | h
    · exact .inl ⟨_, rfl, .lost hlossy⟩
    · exact .inl ⟨_, rfl, .cut⟩
    · obtain ⟨depth', enclosing', h⟩ := h
      exact ih h

/-- Beyond references a schema is shown, unless it was given up. -/
theorem Outcome.shows (h : Outcome doc lossy depth enclosing origin schema result)
    (hr : schema.reference = none) :
    ∃ part, result = some part ∧ (Stopped lossy part ∨ Shows schema part) := by
  cases h with
  | truncated hd hlossy => exact ⟨_, rfl, .inl (.lost hlossy)⟩
  | foreign hd hr' => cases hr.symm.trans hr'
  | missing hd hr' => cases hr.symm.trans hr'
  | cut hd hl => cases hr.symm.trans hl.1
  | looped hd hl => cases hr.symm.trans hl.1
  | follow hd hl => cases hr.symm.trans hl.1
  | object hd hk resultOf =>
    refine ⟨_, rfl, .inr ⟨hk, rfl, ?_⟩⟩
    simp [bodiesOf, KeyedList.keys]
  | itemless hd hk => exact ⟨_, rfl, .inr hk⟩
  | array hd hk => exact ⟨_, rfl, .inr hk⟩
  | leaf hd _ ho ha => exact ⟨_, rfl, .inr ⟨rfl, ho, ha, rfl⟩⟩

/-- Whatever a walk through the schemas comes to is shown by the same walk into the body, as far as
this goes. -/
theorem Outcome.shows_walk {steps : List Step} {target : Schema}
    (hreaches : Reaches doc schema steps target)
    (h : Outcome doc lossy depth enclosing origin schema result) :
    ∃ body, result = some body ∧ ∃ front part, front <+: steps ∧ at? front body = some part ∧
      (Stopped lossy part ∨ front = steps ∧ Shows target part) := by
  induction hreaches generalizing depth enclosing origin result with
  | stop hresolves =>
    rcases h.of_resolves hresolves with ⟨part, rfl, hstopped⟩ | ⟨_, _, _, h⟩
    · exact ⟨part, rfl, [], part, List.nil_prefix, rfl, .inl hstopped⟩
    · obtain ⟨part, rfl, hpart⟩ := h.shows hresolves.reference_eq_none
      exact ⟨part, rfl, [], part, List.nil_prefix, rfl, hpart.imp_right fun hs => ⟨rfl, hs⟩⟩
  | @property schema holder key property steps target hresolves hk hfind _ ih =>
    rcases h.of_resolves hresolves with ⟨part, rfl, hstopped⟩ | ⟨_, _, _, h⟩
    · exact ⟨part, rfl, [], part, List.nil_prefix, rfl, .inl hstopped⟩
    · rcases h.of_object hk with ⟨hlossy, description, rfl⟩ | ⟨resultOf, _, _, rfl, hproperties⟩
      · exact ⟨_, rfl, [], _, List.nil_prefix, rfl, .inl (.lost hlossy)⟩
      · obtain ⟨body, hbody, front, part, hfront, hat, hpart⟩ :=
          ih (hproperties (key, property) (KeyedList.mem_of_find? hfind))
        refine ⟨_, rfl, .property key :: front, part, ?_, ?_, ?_⟩
        · exact List.cons_prefix_cons.mpr ⟨rfl, hfront⟩
        · rw [at?, find?_bodiesOf, hfind, Option.map_some, Option.bind_some, hbody,
            Option.getD_some, hat]
        · exact hpart.imp_right fun ⟨hall, hs⟩ => ⟨by rw [hall], hs⟩
  | @item schema holder items steps target hresolves hk hi _ ih =>
    rcases h.of_resolves hresolves with ⟨part, rfl, hstopped⟩ | ⟨_, _, _, h⟩
    · exact ⟨part, rfl, [], part, List.nil_prefix, rfl, .inl hstopped⟩
    · rcases h.of_array hk with ⟨hlossy, description, rfl⟩ | ⟨hnone, -⟩ |
        ⟨items', item, _, _, hi', rfl, hitem⟩
      · exact ⟨_, rfl, [], _, List.nil_prefix, rfl, .inl (.lost hlossy)⟩
      · cases hi.symm.trans hnone
      · cases hi.symm.trans hi'
        obtain ⟨body, rfl, front, part, hfront, hat, hpart⟩ := ih hitem
        refine ⟨_, rfl, .item :: front, part, ?_, ?_, ?_⟩
        · exact List.cons_prefix_cons.mpr ⟨rfl, hfront⟩
        · rw [at?, Option.getD_some, hat]
        · exact hpart.imp_right fun ⟨hall, hs⟩ => ⟨by rw [hall], hs⟩

/-- A body is left out exactly if the chain of references at the top, before it repeats a name and
within the greatest depth, comes to one that leads nowhere; so not where these references end. In a
body, an object is one of a schema at this place, with all of its properties, of which those whose
references lead nowhere are untyped; and so are such items of an array. Whatever can be reached through
the schemas is shown by the body, unless the way there is cut, or a part of the body was given up
with a warning for depth or for a circle. -/
theorem flatten_with_lost_references (doc : Document) (schema : Schema) :
    ((flatten doc schema).value = none ↔ ∃ names last reference,
      Chain doc schema names last ∧ names.Nodup ∧ names.length ≤ deepest ∧
        last.reference = some reference ∧ LeadsNowhere doc reference) ∧
    (∀ holder, Resolves doc schema holder → (flatten doc schema).value.isSome) ∧
    ∀ tree, (flatten doc schema).value = some tree →
      (∀ steps origin required properties,
        at? steps tree = some (.object origin required properties) → ∃ holder,
          Reaches doc schema steps holder ∧ holder.kind = .object ∧ required = holder.required ∧
            List.Forall₂ (Keeps doc) holder.properties properties) ∧
      (∀ steps item, at? steps tree = some (.array item) → ∃ holder,
        Reaches doc schema steps holder ∧ holder.kind = .array ∧
          ∀ items reference, holder.items = some items → items.reference = some reference →
            LeadsNowhere doc reference → ∃ description, item = untyped description) ∧
      ∀ steps target, Reaches doc schema steps target → ∃ front part,
        front <+: steps ∧ at? front tree = some part ∧
          (Stopped (∃ event ∈ (flatten doc schema).events, event.isLossy) part ∨
            front = steps ∧ Shows target part) := by
  have houtcome : Outcome doc (∃ event ∈ (flatten doc schema).events, event.isLossy) 0 [] none
      schema (flatten doc schema).value := outcome_flatten fun event he hlossy => ⟨event, he, hlossy⟩
  have hnone : (flatten doc schema).value = none ↔ Lost doc 0 [] schema := houtcome.eq_none_iff
  refine ⟨?_, fun holder hresolves => ?_, fun tree htree => ?_⟩
  · rw [hnone]
    simp [Lost]
  · rw [Option.isSome_iff_ne_none, ne_eq, hnone]
    exact fun hlost => hlost.not_resolves holder hresolves
  · rw [htree] at houtcome
    refine ⟨fun steps origin required properties hat => ?_, fun steps item hat => ?_,
      fun steps target hreaches => ?_⟩
    · obtain ⟨holder, _, _, _, hreaches, hr, ho⟩ :=
        houtcome.exists_holder none hat rfl
      exact ⟨holder, hreaches, ho.keeps_of_object hr⟩
    · obtain ⟨holder, _, _, _, hreaches, hr, ho⟩ :=
        houtcome.exists_holder none hat rfl
      exact ⟨holder, hreaches, ho.untyped_of_array hr⟩
    · obtain ⟨body, hbody, hwalk⟩ := houtcome.shows_walk hreaches
      cases hbody
      exact hwalk

/-- The address of an order, behind an alias or not, is kept in another document. -/
def orderSchema : Schema :=
  { properties := [
      ("address", { reference := some "models.yaml#/Address", description := some "Where it goes" }),
      ("note", { type := some (.single "string") })] }

def aliasSchema : Schema := { reference := some "#/components/schemas/Address" }

def ordersDocument : Document where
  openapi := "3.0.0"
  info := ⟨"Orders", "1", none⟩
  paths := []
  components := { schemas := [("Address", { reference := some "models.yaml#/Address" })] }

theorem componentName?_foreign : Reference.componentName? "models.yaml#/Address" .schemas = none := by
  decide +kernel

theorem flatten_orderSchema : ∃ fields,
    (flatten ordersDocument orderSchema).value = some (.object none [] fields) := by
  let resultOf : Schema → Option RequestBody := fun property =>
    if property.reference.isSome then none else some (ofLeaf property)
  refine ⟨bodiesOf orderSchema.properties resultOf, outcome_iff.mp ?_⟩
  refine .object (by decide) rfl resultOf fun property hp => ?_
  rcases List.mem_cons.mp hp with rfl | hp
  · exact .foreign (by decide) rfl componentName?_foreign
  · obtain rfl := List.mem_singleton.mp hp
    exact .leaf (by decide) rfl (by decide) (by decide)

/-- The alias alone gives no body, while an order keeps its address, without a type, and its note. -/
theorem flatten_with_lost_references_orders :
    (flatten ordersDocument aliasSchema).value = none ∧
      ∃ fields, (flatten ordersDocument orderSchema).value = some (.object none [] fields) ∧
        List.Forall₂ (Keeps ordersDocument) orderSchema.properties fields := by
  have hnowhere : LeadsNowhere ordersDocument "models.yaml#/Address" := .inl componentName?_foreign
  have halias : Leads ordersDocument aliasSchema ⟨"Address", "#/components/schemas/Address"⟩
      { reference := some "models.yaml#/Address" } := ⟨rfl, by decide +kernel, rfl⟩
  constructor
  · apply (flatten_with_lost_references ordersDocument aliasSchema).1.mpr
    exact ⟨["Address"], _, _, .follow halias .stop, by decide, by decide, rfl, hnowhere⟩
  · obtain ⟨fields, htree⟩ := flatten_orderSchema
    obtain ⟨-, -, hplaces⟩ := flatten_with_lost_references ordersDocument orderSchema
    obtain ⟨hobjects, -, -⟩ := hplaces _ htree
    obtain ⟨holder, hreaches, -, -, hkept⟩ := hobjects [] _ _ _ rfl
    refine ⟨fields, htree, ?_⟩
    cases hreaches with
    | stop hresolves =>
      cases hresolves with
      | stop => exact hkept
      | follow hl => cases hl.1

end OpenApiGen.RequestBody
