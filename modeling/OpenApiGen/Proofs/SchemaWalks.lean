import OpenApiGen.Proofs.BodyFlattening

/-! # Walks through schemas, and the same walks through the body made of them

Schemas refer to each other in circles, while a body is finite: where it is cut, the walk goes on
at the enclosing object of that name. -/

namespace OpenApiGen

/-- Into a property of an object, or into the items of an array. -/
inductive Step
  | property (key : String)
  | item
deriving DecidableEq, Repr

/-- What is behind all references, if they end. -/
inductive Resolves (doc : Document) : Schema → Schema → Prop
  | stop {schema} (hr : schema.reference = none) : Resolves doc schema schema
  | follow {schema origin next target} (hl : RequestBody.Leads doc schema origin next)
      (h : Resolves doc next target) : Resolves doc schema target

theorem Resolves.reference_eq_none {doc : Document} {schema target : Schema}
    (h : Resolves doc schema target) : target.reference = none := by
  induction h with
  | stop hr => exact hr
  | follow _ _ ih => exact ih

/-- Where a walk from a schema ends. References are followed before each step and at the end. -/
inductive Reaches (doc : Document) : Schema → List Step → Schema → Prop
  | stop {schema target} (h : Resolves doc schema target) : Reaches doc schema [] target
  | property {schema holder key property steps target} (h : Resolves doc schema holder)
      (hk : holder.kind = .object) (hp : KeyedList.find? key holder.properties = some property)
      (hs : Reaches doc property steps target) : Reaches doc schema (.property key :: steps) target
  | item {schema holder items steps target} (h : Resolves doc schema holder)
      (hk : holder.kind = .array) (hi : holder.items = some items)
      (hs : Reaches doc items steps target) : Reaches doc schema (.item :: steps) target

/-- A body, and the objects that it stands in, the nearest one first. -/
structure Place where
  body : RequestBody
  enclosing : List RequestBody

namespace Place

/-- The enclosing object of a name, where it stands itself. -/
def resume? (name : String) : List RequestBody → Option Place
  | [] => none
  | object :: enclosing =>
    if object.name? = some name then some ⟨object, enclosing⟩ else resume? name enclosing

/-- A cut goes on at the object that it names. -/
def settle? (place : Place) : Option Place :=
  match place.body with
  | .cut name _ _ => resume? name place.enclosing
  | _ => some place

def enter? (place : Place) : Step → Option Place
  | .property key => match place.body with
    | .object _ _ properties =>
      (KeyedList.find? key properties).map fun body => ⟨body, place.body :: place.enclosing⟩
    | _ => none
  | .item => match place.body with
    | .array item => some ⟨item, place.enclosing⟩
    | _ => none

def walk? : List Step → Place → Option Place
  | [], place => place.settle?
  | step :: steps, place => do
    let settled ← place.settle?
    let inside ← settled.enter? step
    walk? steps inside

end Place

/-- A body shows a schema: an object its keys in order and what it requires, a leaf its type. -/
def Shows (schema : Schema) : RequestBody → Prop
  | .leaf type kind _ _ _ =>
    schema.kind = kind ∧ kind ≠ .object ∧ kind ≠ .array ∧ type = schema.typeExpr
  | .cut .. => False
  | .object _ required properties =>
    schema.kind = .object ∧ required = schema.required ∧
      KeyedList.keys properties = KeyedList.keys schema.properties
  | .array _ => schema.kind = .array

namespace RequestBody

variable {doc : Document}

/-- The schemas being followed, against the objects that a place stands in: a name among them
belongs to one of these objects, unless its schema is none. -/
inductive Grounded (doc : Document) : List RequestBody → List String → Prop
  | top : Grounded doc [] []
  | other {objects names name target} (h : Grounded doc objects names)
      (hs : doc.schema? name = some target) (hk : target.kind ≠ .object) :
      Grounded doc objects (name :: names)
  | inline {objects names required properties} (h : Grounded doc objects names) :
      Grounded doc (.object none required properties :: objects) names
  | named {objects names origin required properties target} (h : Grounded doc objects names)
      (hs : doc.schema? origin.name = some target)
      (hf : Flattens doc (origin.name :: names) (some origin) target
        (.object (some origin) required properties)) :
      Grounded doc (.object (some origin) required properties :: objects) (origin.name :: names)

/-- The body at a place comes from the schema, inside of objects that belong to those followed. -/
inductive Presents (doc : Document) (place : Place) (schema : Schema) : Prop
  | inline {names} (hg : Grounded doc place.enclosing names)
      (hf : Flattens doc names none schema place.body)
  | named {names origin} (hg : Grounded doc place.enclosing names)
      (hs : doc.schema? origin.name = some schema)
      (hf : Flattens doc (origin.name :: names) (some origin) schema place.body)

/-- Beyond references a body is not a cut, and shows its schema. -/
theorem Flattens.shows {names : List String} {origin : Option Origin} {schema : Schema}
    {body : RequestBody} (h : Flattens doc names origin schema body)
    (hr : schema.reference = none) : Shows schema body := by
  cases h with
  | leaf _ ho ha => exact ⟨rfl, ho, ha, rfl⟩
  | itemless hk _ => exact hk
  | array hk _ _ => exact hk
  | object hk bodyOf _ =>
    refine ⟨hk, rfl, ?_⟩
    simp [KeyedList.keys]
  | follow hl _ _ => cases hl.1.symm.trans hr
  | cut hl _ _ => cases hl.1.symm.trans hr

theorem Presents.shows {place : Place} {schema : Schema} (h : Presents doc place schema)
    (hr : schema.reference = none) : Shows schema place.body := by
  cases h with
  | inline _ hf => exact hf.shows hr
  | named _ _ hf => exact hf.shows hr

/-- The names at which a cut may stand all lead back to an object. -/
theorem Grounded.resume {objects : List RequestBody} {names : List String} {name : String}
    {target : Schema} (h : Grounded doc objects names) (hn : name ∈ names)
    (hs : doc.schema? name = some target) (hk : target.kind = .object) :
    ∃ place, Place.resume? name objects = some place ∧ Presents doc place target := by
  induction h with
  | top => cases hn
  | other _ hs' hk' ih =>
    rcases List.mem_cons.mp hn with rfl | hn
    · cases hs.symm.trans hs'
      exact absurd hk hk'
    · exact ih hn
  | inline _ ih =>
    obtain ⟨place, hp, hb⟩ := ih hn
    exact ⟨place, by simpa [Place.resume?, name?] using hp, hb⟩
  | @named objects names origin required properties target' h hs' hf ih =>
    by_cases he : origin.name = name
    · subst he
      cases hs.symm.trans hs'
      refine ⟨⟨.object (some origin) required properties, objects⟩, ?_, .named h hs hf⟩
      simp [Place.resume?, name?]
    · have hn : name ∈ names := by
        rcases List.mem_cons.mp hn with hn | hn
        · exact absurd hn.symm he
        · exact hn
      obtain ⟨place, hp, hb⟩ := ih hn
      exact ⟨place, by simpa [Place.resume?, name?, he] using hp, hb⟩

theorem Presents.grounded {place : Place} {schema : Schema} (h : Presents doc place schema)
    (hk : schema.kind ≠ .object) :
    ∃ names origin, Grounded doc place.enclosing names ∧
      Flattens doc names origin schema place.body := by
  cases h with
  | inline hg hf => exact ⟨_, _, hg, hf⟩
  | named hg hs hf => exact ⟨_, _, .other hg hs hk, hf⟩

theorem Flattens.follows {names : List String} {origin : Option Origin} {schema target : Schema}
    {body : RequestBody} {next : Origin} (h : Flattens doc names origin schema body)
    (hl : Leads doc schema next target) :
    Flattens doc (next.name :: names) (some next) target body ∨
      next.name ∈ names ∧ target.kind = .object ∧
        ∃ nullable description, body = .cut next.name nullable description := by
  have hr := hl.1
  cases h with
  | leaf hr' _ _ => cases hr.symm.trans hr'
  | itemless hk _ => cases hl.kind.symm.trans hk
  | array hk _ _ => cases hl.kind.symm.trans hk
  | object hk _ _ => cases hl.kind.symm.trans hk
  | follow hl' _ hf =>
    obtain ⟨rfl, rfl⟩ := hl.unique hl'
    exact .inl hf
  | cut hl' hn hk =>
    obtain ⟨rfl, rfl⟩ := hl.unique hl'
    exact .inr ⟨hn, hk, _, _, rfl⟩

/-- Following references in the schemas is settling a cut in the body, or nothing there. -/
theorem Presents.settle {schema target : Schema} (h : Resolves doc schema target) {place : Place}
    (hp : Presents doc place schema) :
    ∃ settled, place.settle? = some settled ∧ Presents doc settled target := by
  induction h generalizing place with
  | stop hr =>
    refine ⟨place, ?_, hp⟩
    have hshows := hp.shows hr
    unfold Place.settle?
    cases hb : place.body with
    | cut => simp [hb, Shows] at hshows
    | _ => rfl
  | @follow schema origin next target hl h ih =>
    obtain ⟨names, reached, hg, hf⟩ := hp.grounded (by simp [hl.kind])
    rcases hf.follows hl with hf | ⟨hn, hk, nullable, description, hb⟩
    · exact ih (.named hg hl.2.2 hf)
    · -- the cut object is where its own references end
      have htarget : target = next := by
        cases h with
        | stop => rfl
        | follow hl' _ => cases hl'.kind.symm.trans hk
      subst htarget
      simpa [Place.settle?, hb] using hg.resume hn hl.2.2 hk

theorem Flattens.properties {names : List String} {origin : Option Origin} {schema : Schema}
    {body : RequestBody} (h : Flattens doc names origin schema body) (hk : schema.kind = .object) :
    ∃ properties, body = .object origin schema.required properties ∧
      ∀ key property, KeyedList.find? key schema.properties = some property →
        ∃ inside, KeyedList.find? key properties = some inside ∧
          Flattens doc names none property inside := by
  cases h with
  | leaf _ ho _ => exact absurd hk ho
  | itemless ha _ => cases ha.symm.trans hk
  | array ha _ _ => cases ha.symm.trans hk
  | object _ bodyOf hf =>
    refine ⟨_, rfl, fun key property hp => ⟨bodyOf property, ?_, ?_⟩⟩
    · simp [KeyedList.find?_map, hp]
    · exact hf _ (KeyedList.mem_of_find? hp)
  | follow hl _ _ => cases hl.kind.symm.trans hk
  | cut hl _ _ => cases hl.kind.symm.trans hk

theorem Flattens.item {names : List String} {origin : Option Origin} {schema items : Schema}
    {body : RequestBody} (h : Flattens doc names origin schema body) (hk : schema.kind = .array)
    (hi : schema.items = some items) :
    ∃ item, body = .array item ∧ Flattens doc names none items item := by
  cases h with
  | leaf _ _ ha => exact absurd hk ha
  | itemless _ hi' => cases hi.symm.trans hi'
  | array _ hi' hf =>
    cases hi.symm.trans hi'
    exact ⟨_, rfl, hf⟩
  | object ho _ _ => cases ho.symm.trans hk
  | follow hl _ _ => cases hl.kind.symm.trans hk
  | cut hl _ _ => cases hl.kind.symm.trans hk

/-- An object joins those that enclose its properties, with its name if it has one. -/
theorem Presents.enclosing {place : Place} {schema : Schema} (h : Presents doc place schema)
    (hk : schema.kind = .object) :
    ∃ names origin, Grounded doc (place.body :: place.enclosing) names ∧
      Flattens doc names origin schema place.body := by
  cases h with
  | inline hg hf =>
    obtain ⟨properties, hb, -⟩ := hf.properties hk
    refine ⟨_, none, ?_, hf⟩
    rw [hb]
    exact .inline hg
  | named hg hs hf =>
    obtain ⟨properties, hb, -⟩ := hf.properties hk
    refine ⟨_, _, ?_, hf⟩
    rw [hb] at hf ⊢
    exact .named hg hs hf

theorem Presents.enter_property {place : Place} {schema property : Schema} {key : String}
    (h : Presents doc place schema) (hk : schema.kind = .object)
    (hp : KeyedList.find? key schema.properties = some property) :
    ∃ inside, place.enter? (.property key) = some inside ∧ Presents doc inside property := by
  obtain ⟨names, origin, hg, hf⟩ := h.enclosing hk
  obtain ⟨properties, hb, hinside⟩ := hf.properties hk
  obtain ⟨inside, hi, hfi⟩ := hinside key property hp
  refine ⟨⟨inside, place.body :: place.enclosing⟩, ?_, .inline hg hfi⟩
  simp [Place.enter?, hb, hi]

theorem Presents.enter_item {place : Place} {schema items : Schema} (h : Presents doc place schema)
    (hk : schema.kind = .array) (hi : schema.items = some items) :
    ∃ inside, place.enter? .item = some inside ∧ Presents doc inside items := by
  obtain ⟨names, origin, hg, hf⟩ := h.grounded (by simp [hk])
  obtain ⟨item, hb, hfi⟩ := hf.item hk hi
  refine ⟨⟨item, place.enclosing⟩, ?_, .inline hg hfi⟩
  simp [Place.enter?, hb]

/-- A walk through the schemas is a walk through the body, step by step, and ends on a body that
shows the schema. -/
theorem Presents.walk {schema target : Schema} {steps : List Step}
    (h : Reaches doc schema steps target) {place : Place} (hp : Presents doc place schema) :
    ∃ last, place.walk? steps = some last ∧ Presents doc last target ∧ Shows target last.body := by
  induction h generalizing place with
  | stop h =>
    obtain ⟨settled, hs, hp⟩ := hp.settle h
    exact ⟨settled, hs, hp, hp.shows h.reference_eq_none⟩
  | property h hk hprop _ ih =>
    obtain ⟨settled, hs, hp⟩ := hp.settle h
    obtain ⟨inside, hi, hp⟩ := hp.enter_property hk hprop
    obtain ⟨last, hl, hlast⟩ := ih hp
    exact ⟨last, by simp [Place.walk?, hs, hi, hl], hlast⟩
  | item h hk hitems _ ih =>
    obtain ⟨settled, hs, hp⟩ := hp.settle h
    obtain ⟨inside, hi, hp⟩ := hp.enter_item hk hitems
    obtain ⟨last, hl, hlast⟩ := ih hp
    exact ⟨last, by simp [Place.walk?, hs, hi, hl], hlast⟩

/-- Without a warning the body of a schema, circular or not, shows all that walks through the
schemas reach. -/
theorem flatten_shows_walks (doc : Document) (schema : Schema) (hq : (flatten doc schema).Quiet) :
    ∃ tree, (flatten doc schema).value = some tree ∧
      ∀ steps target, Reaches doc schema steps target →
        ∃ place, Place.walk? steps ⟨tree, []⟩ = some place ∧ Shows target place.body := by
  obtain ⟨tree, hv, hf⟩ := flattens_of_quiet hq
  refine ⟨tree, hv, fun steps target hreaches => ?_⟩
  have htop : Presents doc ⟨tree, []⟩ schema := .inline .top hf
  obtain ⟨place, hw, _, hshows⟩ := htop.walk hreaches
  exact ⟨place, hw, hshows⟩

/-- Each node holds labels and the next node. -/
def nodeReference : Schema := { reference := some "#/components/schemas/Node" }

def labelSchema : Schema := { type := some (.single "string") }

def labelsSchema : Schema := { type := some (.single "array"), items := some labelSchema }

def nodeSchema : Schema :=
  { properties := [("labels", labelsSchema), ("next", nodeReference)], required := ["labels"] }

def nodeDocument : Document where
  openapi := "3.0.0"
  info := ⟨"Nodes", "1", none⟩
  paths := []
  components := { schemas := [("Node", nodeSchema)] }

theorem nodeReference_leads :
    Leads nodeDocument nodeReference ⟨"Node", "#/components/schemas/Node"⟩ nodeSchema := by
  refine ⟨rfl, ?_, rfl⟩
  decide +kernel

/-- A walk around the circle comes to the same labels. -/
theorem flatten_shows_walks_nodes :
    (flatten nodeDocument nodeReference).Quiet ∧
      ∃ tree, (flatten nodeDocument nodeReference).value = some tree ∧
        ∃ place, Place.walk? [.property "next", .property "next", .property "labels", .item]
          ⟨tree, []⟩ = some place ∧ Shows labelSchema place.body := by
  have hq : (flatten nodeDocument nodeReference).Quiet := by
    have he : (flatten nodeDocument nodeReference).events = [.bodyCycleCut "Node"] := by
      decide +kernel
    simp [Traced.Quiet, he, Event.level]
  have hnode : Resolves nodeDocument nodeReference nodeSchema :=
    .follow nodeReference_leads (.stop rfl)
  obtain ⟨tree, hv, hwalks⟩ := flatten_shows_walks nodeDocument nodeReference hq
  refine ⟨hq, tree, hv, hwalks _ _ ?_⟩
  refine .property hnode rfl rfl (.property hnode rfl rfl (.property hnode rfl rfl ?_))
  exact .item (.stop rfl) rfl rfl (.stop (.stop rfl))

end RequestBody
end OpenApiGen
