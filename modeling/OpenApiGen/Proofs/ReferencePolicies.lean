import OpenApiGen.Proofs.PropertyPlaces

/-!
# One document under two policies

Where lost references are tolerated, the entities are those of the strict reading, as far as there
are any. The strict reading ends at the first place whose reference is lost, and the tolerant one
has at this place a property without a reference and without a type.
-/

namespace OpenApiGen

namespace EntityProperty

mutual

/-- The properties that are nested in one which stands at this place. -/
def inside (place : String) : EntityProperty → List (String × EntityProperty)
  | { nested := nested, .. } => places place nested

/-- Properties and what is nested in them, each in front of what is nested in it, with the places
where they stand. -/
def places (owner : String) : List EntityProperty → List (String × EntityProperty)
  | [] => []
  | p :: rest =>
    (owner ++ "." ++ p.name, p) :: inside (owner ++ "." ++ p.name) p ++ places owner rest

end

theorem inside_eq (place : String) (p : EntityProperty) :
    p.inside place = places place p.nested := by
  cases p
  rw [inside]

end EntityProperty

namespace Attempt

variable {α β : Type}

/-- What one computation comes to, the other one does, which may also go on where the first ends. -/
def CoveredBy (x y : Attempt α) : Prop := ∀ a, x.outcome = .ok a → y.outcome = .ok a

namespace CoveredBy

theorem refl (x : Attempt α) : x.CoveredBy x := fun _ h => h

theorem throw (failure : Failure) (y : Attempt α) :
    CoveredBy (MonadExcept.throw failure : Attempt α) y := nofun

theorem bind {x y : Attempt α} {f g : α → Attempt β} (hx : x.CoveredBy y)
    (hf : ∀ a, (f a).CoveredBy (g a)) : CoveredBy (x >>= f) (y >>= g) := by
  intro b h
  rw [outcome_bind, bind_eq_ok_iff] at h ⊢
  obtain ⟨a, ha, hb⟩ := h
  exact ⟨a, hx a ha, hf a b hb⟩

end CoveredBy

end Attempt

namespace Entity

variable {doc : Document} {policy : ReferencePolicy}

/-- All properties of an entity, under the name of its schema. -/
def places (entity : Entity) : List (String × EntityProperty) :=
  EntityProperty.places entity.schemaName entity.properties

/-- The schemas that the properties of the entities of a document come from, entity by entity, and in
each one from the outside in. -/
def declaredPlaces (schemas : List (String × Schema)) : List (String × Schema) :=
  (schemas.filter fun entry => (stripSuffix? entry.1).isSome).flatMap fun entry =>
    Schema.places entry.1 entry.2.properties

/-! ## What is tolerated -/

/-- A reference is followed in the same way where none is lost. -/
theorem coveredBy_followReference (place : String) (otherwise : TypeExpr)
    (reference : Option String) (current : TypeExpr × Option String) :
    (followReference doc .error place otherwise reference current).CoveredBy
      (followReference doc .untyped place otherwise reference current) := by
  cases reference with
  | none => exact .refl _
  | some reference =>
    have hcheck : (checkReference doc .error place reference).CoveredBy
        (checkReference doc .untyped place reference) := by
      unfold checkReference
      split
      · exact .refl _
      · exact .throw _ _
    exact .bind hcheck fun leads => .refl _

theorem outcome_followReference_lost {place reference : String} {otherwise : TypeExpr}
    {current : TypeExpr × Option String} (h : ¬resolves doc reference) :
    (followReference doc .untyped place otherwise (some reference) current).outcome =
      .ok (otherwise, current.2) := by
  have hcheck : (checkReference doc .untyped place reference).outcome = .ok false := by
    rw [checkReference, if_neg h]
    rfl
  rw [followReference, Attempt.outcome_bind, hcheck]
  rfl

theorem coveredBy_followAll (place : String) (schema : Schema) :
    (followAll doc .error place schema).CoveredBy (followAll doc .untyped place schema) :=
  .bind (coveredBy_followReference _ _ _ _) fun _ => coveredBy_followReference _ _ _ _

/-- A property whose reference is lost has no type, and an array whose element is has no type of
elements. Neither has a reference. -/
theorem type_and_reference_of_lost {place reference : String} {schema : Schema}
    {found : TypeExpr × Option String} (hr : reference ∈ schema.lookedUp)
    (hlost : ¬resolves doc reference)
    (h : (followAll doc .untyped place schema).outcome = .ok found) :
    found.2 = none ∧ (schema.reference = some reference ∧ found.1 = .any ∨
      schema.element?.bind Schema.reference = some reference ∧ found.1 = .array .any) := by
  rw [followAll, Attempt.outcome_bind] at h
  rw [Schema.lookedUp, List.mem_append, Option.mem_toList, Option.mem_toList] at hr
  rcases hr with hr | hr
  · -- a reference is no array, so that it has no element
    have hnone : schema.element? = none :=
      Schema.element?_of_ne_array (by simp [Schema.kind_of_reference hr])
    rw [hr, outcome_followReference_lost hlost, ok_bind, hnone] at h
    cases h
    exact ⟨rfl, .inl ⟨hr, rfl⟩⟩
  · have harray : schema.kind = .array := by
      by_contra hk
      rw [Schema.element?_of_ne_array hk] at hr
      cases hr
    have hown : schema.reference = none := Schema.reference_eq_none (by simp [harray])
    rw [hown, hr] at h
    have hfirst : (followReference doc .untyped place .any none (schema.typeExpr, none)).outcome =
        .ok (schema.typeExpr, none) := rfl
    rw [hfirst, ok_bind, outcome_followReference_lost hlost] at h
    cases h
    exact ⟨rfl, .inr ⟨hr, rfl⟩⟩

mutual

theorem coveredBy_flattenProperty : (schema : Schema) → (name place : String) →
    (required : Bool) →
    (flattenProperty doc .error name place required schema).CoveredBy
      (flattenProperty doc .untyped name place required schema)
  | { properties := properties, items := items, required := names, .. },
    name, place, required => by
    rw [flattenProperty_eq, flattenProperty_eq]
    refine .bind (coveredBy_followAll _ _) fun found => .bind ?_ fun nested => .refl _
    rw [flattenNested, flattenNested]
    split
    · exact coveredBy_flattenItems items place
    · split
      · exact coveredBy_flattenAll properties place names
      · exact .refl _

theorem coveredBy_flattenItems : (items : Option Schema) → (place : String) →
    (flattenItems doc .error place items).CoveredBy (flattenItems doc .untyped place items)
  | none, place => by
    rw [flattenItems, flattenItems]
    exact .refl _
  | some { properties := properties, required := names, .. }, place => by
    rw [flattenItems, flattenItems]
    split
    · exact coveredBy_flattenAll properties place names
    · exact .refl _

/-- Properties that lose no reference are the same where that would be tolerated. -/
theorem coveredBy_flattenAll : (properties : List (String × Schema)) → (owner : String) →
    (required : List String) →
    (flattenAll doc .error owner required properties).CoveredBy
      (flattenAll doc .untyped owner required properties)
  | [], owner, required => by
    rw [flattenAll, flattenAll]
    exact .refl _
  | (name, schema) :: rest, owner, required => by
    rw [flattenAll, flattenAll]
    refine .bind (coveredBy_flattenProperty schema name _ _) fun property => ?_
    exact .bind (coveredBy_flattenAll rest owner required) fun others => .refl _

end

theorem coveredBy_ofSchemas (schemas : List (String × Schema)) :
    (ofSchemas doc .error schemas).CoveredBy (ofSchemas doc .untyped schemas) := by
  induction schemas with
  | nil => exact .refl _
  | cons entry schemas ih =>
    rw [ofSchemas, ofSchemas]
    split
    · exact ih
    · split
      · exact .refl _
      · refine .bind (coveredBy_flattenAll _ _ _) fun properties => ?_
        exact .bind ih fun rest => .refl _

theorem coveredBy_extract : (extract doc .error).CoveredBy (extract doc .untyped) :=
  .bind (coveredBy_ofSchemas _) fun _ => .refl _

/-! ## Places of schemas and places of properties -/

/-- A property that stands where a schema does has the type and the reference that those of the
schema lead to. -/
def Reads (doc : Document) (policy : ReferencePolicy) (entry : String × Schema)
    (part : String × EntityProperty) : Prop :=
  entry.1 = part.1 ∧
    (followAll doc policy entry.1 entry.2).outcome = .ok (part.2.type, part.2.reference)

mutual

/-- The properties that are nested in one come from the schemas inside of its own. -/
theorem reads_flattenProperty : (schema : Schema) → {name place : String} → {required : Bool} →
    {p : EntityProperty} →
    (flattenProperty doc policy name place required schema).outcome = .ok p →
    p.name = name ∧ Reads doc policy (place, schema) (place, p) ∧
      List.Forall₂ (Reads doc policy) (schema.inside place) (p.inside place)
  | { properties := properties, items := items, required := names, .. },
    name, place, required, p, h => by
    rw [flattenProperty_eq] at h
    simp only [Attempt.outcome_bind, bind_eq_ok_iff, Attempt.outcome_pure] at h
    obtain ⟨found, hfound, nested, hnested, h⟩ := h
    cases h
    refine ⟨rfl, ⟨rfl, hfound⟩, ?_⟩
    rw [EntityProperty.inside_eq, Schema.inside]
    dsimp only [recordProperty]
    rw [flattenNested] at hnested
    split at hnested
    · rename_i ha
      rw [if_pos ha]
      exact reads_flattenItems items hnested
    · rename_i ha
      rw [if_neg ha]
      split at hnested
      · rename_i ho
        rw [if_pos ho]
        exact reads_flattenAll properties hnested
      · rename_i ho
        rw [if_neg ho]
        cases hnested
        rw [EntityProperty.places]
        exact .nil

theorem reads_flattenItems : (items : Option Schema) → {place : String} →
    {ps : List EntityProperty} → (flattenItems doc policy place items).outcome = .ok ps →
    List.Forall₂ (Reads doc policy) (Schema.insideItems place items)
      (EntityProperty.places place ps)
  | none, place, ps, h => by
    rw [flattenItems] at h
    cases h
    rw [Schema.insideItems, EntityProperty.places]
    exact .nil
  | some { properties := properties, required := names, .. }, place, ps, h => by
    rw [flattenItems] at h
    rw [Schema.insideItems]
    split at h
    · rename_i ho
      rw [if_pos ho]
      exact reads_flattenAll properties h
    · rename_i ho
      cases h
      rw [if_neg ho, EntityProperty.places]
      exact .nil

theorem reads_flattenAll : (properties : List (String × Schema)) → {owner : String} →
    {required : List String} → {ps : List EntityProperty} →
    (flattenAll doc policy owner required properties).outcome = .ok ps →
    List.Forall₂ (Reads doc policy) (Schema.places owner properties)
      (EntityProperty.places owner ps)
  | [], owner, required, ps, h => by
    rw [flattenAll] at h
    cases h
    rw [Schema.places, EntityProperty.places]
    exact .nil
  | (name, schema) :: rest, owner, required, ps, h => by
    rw [flattenAll] at h
    simp only [Attempt.outcome_bind, bind_eq_ok_iff, Attempt.outcome_pure] at h
    obtain ⟨property, hproperty, others, hothers, h⟩ := h
    cases h
    obtain ⟨rfl, hown, hinside⟩ := reads_flattenProperty schema hproperty
    rw [Schema.places, EntityProperty.places]
    exact List.rel_append (.cons hown hinside) (reads_flattenAll rest hothers)

end

/-- The properties of the entities stand where the schemas do that they come from, in the same
order. -/
theorem reads_ofSchemas {schemas : List (String × Schema)} {entities : List Entity}
    (h : (ofSchemas doc policy schemas).outcome = .ok entities) :
    List.Forall₂ (Reads doc policy) (declaredPlaces schemas) (entities.flatMap places) := by
  induction schemas generalizing entities with
  | nil =>
    cases h
    exact .nil
  | cons entry schemas ih =>
    obtain ⟨schemaName, schema⟩ := entry
    rw [ofSchemas] at h
    cases hname : stripSuffix? schemaName with
    | none =>
      simp only [hname] at h
      rw [declaredPlaces, List.filter_cons_of_neg (by simp [hname])]
      exact ih h
    | some name =>
      simp only [hname] at h
      split at h
      · cases h
      · simp only [Attempt.outcome_bind, bind_eq_ok_iff, Attempt.outcome_pure] at h
        obtain ⟨properties, hproperties, rest, hrest, h⟩ := h
        cases h
        rw [declaredPlaces, List.filter_cons_of_pos (by simp [hname]), List.flatMap_cons,
          List.flatMap_cons]
        exact List.rel_append (reads_flattenAll schema.properties hproperties) (ih hrest)

theorem reads_extract {entities : List Entity}
    (h : (extract doc policy).outcome = .ok entities) :
    List.Forall₂ (Reads doc policy) (declaredPlaces doc.components.schemas)
      (entities.flatMap places) := by
  rw [extract] at h
  simp only [Attempt.outcome_bind, Attempt.outcome_report, bind_eq_ok_iff] at h
  obtain ⟨found, hfound, -, -, h⟩ := h
  cases h
  exact reads_ofSchemas hfound

/-- What the references of a property lead to under either policy. Where none is lost, its type and
its name are those of the schema; otherwise it has no name, and no type or none for its elements. -/
theorem type_and_reference_of_flattenProperty {name place : String} {required : Bool}
    {schema : Schema} {p : EntityProperty}
    (h : (flattenProperty doc policy name place required schema).outcome = .ok p) :
    (∀ reference ∈ schema.lookedUp, resolves doc reference) ∧ p.type = schema.typeExpr ∧
        p.reference = schema.lookedUp.head?.bind (Reference.componentName? · .schemas) ∨
      ∃ reference ∈ schema.lookedUp, ¬resolves doc reference ∧ p.reference = none ∧
        (schema.kind ≠ .array ∧ p.type = .any ∨ schema.kind = .array ∧ p.type = .array .any) := by
  by_cases hall : ∀ reference ∈ schema.lookedUp, resolves doc reference
  · exact .inl ⟨hall, type_and_reference_of_resolves h hall⟩
  · push Not at hall
    obtain ⟨reference, hmem, hlost⟩ := hall
    cases policy with
    | error => exact absurd (resolves_of_lookedUp h hmem) hlost
    | untyped =>
      have hfollow := (reads_flattenProperty schema h).2.1.2
      obtain ⟨hnone, htypes⟩ := type_and_reference_of_lost hmem hlost hfollow
      refine .inr ⟨reference, hmem, hlost, hnone, htypes.imp (fun hown => ?_) fun helement => ?_⟩
      · exact ⟨by simp [Schema.kind_of_reference hown.1], hown.2⟩
      · refine ⟨?_, helement.2⟩
        by_contra hk
        rw [Schema.element?_of_ne_array hk] at helement
        cases helement.1

/-! ## The first reference that is lost -/

/-- Where every entity has a name, all errors are those of lost references, place by place. -/
theorem errors_eq_flatMap_places (h : suffix ∉ KeyedList.keys doc.components.schemas) :
    errors doc policy =
      (declaredPlaces doc.components.schemas).flatMap (propertyErrors doc policy) := by
  rw [errors, declaredPlaces, List.flatMap_assoc]
  generalize doc.components.schemas = schemas at h
  induction schemas with
  | nil => rfl
  | cons entry schemas ih =>
    rw [KeyedList.keys, List.map_cons, List.mem_cons, not_or] at h
    obtain ⟨hname, hrest⟩ := h
    rw [List.flatMap_cons, ih hrest, schemaErrors]
    cases hstrip : stripSuffix? entry.1 with
    | none => rw [List.filter_cons_of_neg (by simp [hstrip]), List.nil_append]
    | some name =>
      have hne : ¬name.isEmpty := by
        intro hempty
        rw [String.isEmpty_iff.mp hempty, stripSuffix?_eq_empty_iff] at hstrip
        exact hname hstrip.symm
      rw [List.filter_cons_of_pos (by simp [hstrip]), List.flatMap_cons]
      simp only [if_neg hne]

theorem propertyErrors_eq_nil_iff {entry : String × Schema} :
    propertyErrors doc .error entry = [] ↔
      ∀ reference ∈ entry.2.lookedUp, resolves doc reference := by
  rw [propertyErrors, referenceErrors, List.map_eq_nil_iff, List.filter_eq_nil_iff]
  simp

theorem propertyErrors_eq_nil {entry : String × Schema}
    (h : ∀ reference ∈ entry.2.lookedUp, resolves doc reference) :
    propertyErrors doc policy entry = [] := by
  cases policy with
  | error => exact propertyErrors_eq_nil_iff.mpr h
  | untyped => rfl

/-- The first element that has an image has that of the whole list. -/
theorem exists_of_head?_flatMap {α β : Type} {f : α → List β} {xs : List α} {b : β}
    (h : (xs.flatMap f).head? = some b) :
    ∃ before x after, xs = before ++ x :: after ∧ (∀ y ∈ before, f y = []) ∧
      (f x).head? = some b := by
  rw [List.head?_flatMap, List.findSome?_eq_some_iff] at h
  obtain ⟨before, x, after, hxs, hx, hbefore⟩ := h
  refine ⟨before, x, after, hxs, fun y hy => ?_, hx⟩
  exact List.head?_eq_none_iff.mp (hbefore y hy)

theorem exists_of_forall₂_split {α β : Type} {R : α → β → Prop} {before after : List α} {x : α}
    {ys : List β} (h : List.Forall₂ R (before ++ x :: after) ys) :
    ∃ front y back, ys = front ++ y :: back ∧ List.Forall₂ R before front ∧ R x y := by
  induction before generalizing ys with
  | nil =>
    cases h with
    | cons hr _ => exact ⟨[], _, _, rfl, .nil, hr⟩
  | cons b before ih =>
    cases h with
    | @cons _ y _ _ hb hrest =>
      obtain ⟨front, z, back, rfl, hfront, hr⟩ := ih hrest
      exact ⟨y :: front, z, back, rfl, .cons hb hfront, hr⟩

/-- The strict reading ends at the first place where a reference is lost. -/
theorem exists_place_of_error {reference place : String}
    (h : (extract doc .error).outcome = .error (.unresolvedReference reference place))
    (hnames : suffix ∉ KeyedList.keys doc.components.schemas) :
    ∃ before schema after,
      declaredPlaces doc.components.schemas = before ++ (place, schema) :: after ∧
      (∀ entry ∈ before, ∀ other ∈ entry.2.lookedUp, resolves doc other) ∧
      reference ∈ schema.lookedUp ∧ ¬resolves doc reference := by
  have hfirst := (endsAt_extract doc .error _).mp h
  rw [errors_eq_flatMap_places hnames] at hfirst
  obtain ⟨before, entry, after, hsplit, hbefore, hentry⟩ := exists_of_head?_flatMap hfirst
  have hmem := List.mem_of_head? hentry
  rw [propertyErrors, mem_referenceErrors_iff] at hmem
  obtain ⟨-, other, hlooked, hlost, hfailure⟩ := hmem
  obtain ⟨rfl, rfl⟩ := Failure.unresolvedReference.inj hfailure
  refine ⟨before, entry.2, after, hsplit, fun earlier he => ?_, hlooked, hlost⟩
  exact propertyErrors_eq_nil_iff.mp (hbefore earlier he)

/-- Where lost references are tolerated, an entity without a name is all that is not. Whatever the
strict reading comes to is the same then. Where it ends with a lost reference instead, this is the
first one of the document, and in its place the tolerant reading has a property without a reference,
of no type or an array of no type. -/
theorem extract_under_policies (doc : Document) :
    ((∃ failure, (extract doc .untyped).outcome = .error failure) ↔
      "Entity" ∈ KeyedList.keys doc.components.schemas) ∧
    (∀ entities, (extract doc .error).outcome = .ok entities →
      (extract doc .untyped).outcome = .ok entities) ∧
    ∀ reference place entities,
      (extract doc .error).outcome = .error (.unresolvedReference reference place) →
      (extract doc .untyped).outcome = .ok entities →
      ∃ before schema after front property back,
        declaredPlaces doc.components.schemas = before ++ (place, schema) :: after ∧
        (∀ entry ∈ before, ∀ other ∈ entry.2.lookedUp, resolves doc other) ∧
        ¬resolves doc reference ∧
        entities.flatMap places = front ++ (place, property) :: back ∧
        front.map Prod.fst = before.map Prod.fst ∧
        property.reference = none ∧
        (schema.reference = some reference ∧ property.type = .any ∨
          schema.element?.bind Schema.reference = some reference ∧
            property.type = .array .any) := by
  have hfails : (∃ failure, (extract doc .untyped).outcome = .error failure) ↔
      "Entity" ∈ KeyedList.keys doc.components.schemas := by
    rw [(endsAt_extract doc .untyped).exists_error_iff, exists_mem_errors_iff]
    simp [suffix]
  refine ⟨hfails, coveredBy_extract, fun reference place entities hstrict htolerant => ?_⟩
  have hnames : suffix ∉ KeyedList.keys doc.components.schemas := by
    intro hmem
    obtain ⟨failure, hfailure⟩ := hfails.mpr hmem
    cases htolerant.symm.trans hfailure
  obtain ⟨before, schema, after, hsplit, hbefore, hlooked, hlost⟩ :=
    exists_place_of_error hstrict hnames
  have hreads := reads_extract htolerant
  rw [hsplit] at hreads
  obtain ⟨front, part, back, hparts, hfront, hplace, hfound⟩ := exists_of_forall₂_split hreads
  obtain ⟨hnone, htype⟩ := type_and_reference_of_lost hlooked hlost hfound
  have hpart : part = (place, part.2) := Prod.ext hplace.symm rfl
  rw [hpart] at hparts
  refine ⟨before, schema, after, front, part.2, back, hsplit, hbefore, hlost, hparts, ?_, hnone,
    htype⟩
  exact (map_eq_map_of_forall₂ (hfront.imp fun _ _ hread => hread.1)).symm

/-- The lines of an order are objects with a list of products, and neither products nor prices are
declared. -/
def lostProducts : Document :=
  .ofKeys [] [("OrderEntity",
    { properties := [
        ("user", { reference := some "#/components/schemas/UserEntity" }),
        ("lines", {
          type := some (.single "array")
          items := some { properties := [("products", {
            type := some (.single "array")
            items := some { reference := some "#/components/schemas/Product" } })] } }),
        ("price", { reference := some "#/components/schemas/Price" })] }), ("UserEntity", {})]

theorem extract_under_policies_lostProducts :
    (extract lostProducts .error).outcome = .error
      (.unresolvedReference "#/components/schemas/Product" "OrderEntity.lines.products") ∧
    ∃ entities, (extract lostProducts .untyped).outcome = .ok entities ∧
      ∃ property, ("OrderEntity.lines.products", property) ∈ entities.flatMap places ∧
        property.reference = none ∧ (property.type = .any ∨ property.type = .array .any) := by
  have hfirst : (errors lostProducts .error).head? = some
      (.unresolvedReference "#/components/schemas/Product" "OrderEntity.lines.products") := by
    decide +kernel
  have hstrict := (endsAt_extract lostProducts .error _).mpr hfirst
  have htolerant : (extract lostProducts .untyped).outcome.map (fun _ => ()) = .ok () := by
    decide +kernel
  obtain ⟨entities, htolerant, -⟩ := map_eq_ok_iff.mp htolerant
  obtain ⟨before, schema, after, front, property, back, -, -, -, hplaces, -, hnone, htype⟩ :=
    (extract_under_policies lostProducts).2.2 _ _ entities hstrict htolerant
  refine ⟨hstrict, entities, htolerant, property, ?_, hnone, htype.imp And.right And.right⟩
  rw [hplaces]
  simp

end Entity

end OpenApiGen
