import OpenApiGen.Proofs.EntityProperties
import OpenApiGen.Proofs.FlatteningOutcomes
import OpenApiGen.Proofs.InferredTypes

/-!
# The two spellings of types

OpenAPI 3.0 names one type and says beside it whether null is allowed, 3.1 lists the types, of which
null is one. Schemas that are respelled, at any of their nodes, read alike, and so they come to the
same type expressions, bodies, properties and parameters.
-/

namespace OpenApiGen

/-- Entries under the same key, with related values. -/
inductive Keyed {κ α β : Type} (R : α → β → Prop) : κ × α → κ × β → Prop
  | intro (key : κ) {a : α} {b : β} (h : R a b) : Keyed R (key, a) (key, b)

theorem rel_find?_of_keyed {α β : Type} {R : α → β → Prop} {entries : List (String × α)}
    {entries' : List (String × β)} (h : List.Forall₂ (Keyed R) entries entries') (key : String) :
    Option.Rel R (KeyedList.find? key entries) (KeyedList.find? key entries') := by
  induction h with
  | nil => exact .none
  | cons he _ ih =>
    obtain ⟨first, hr⟩ := he
    by_cases hk : first = key
    · simpa [KeyedList.find?, hk] using Option.Rel.some hr
    · simpa [KeyedList.find?, hk] using ih

theorem mapM_congr_of_forall₂ {m : Type → Type} [Monad m] [LawfulMonad m]
    {α β γ : Type} {f : α → m γ} {g : β → m γ} {xs : List α} {ys : List β}
    (h : List.Forall₂ (fun x y => f x = g y) xs ys) :
    xs.mapM f = ys.mapM g := by
  induction h with
  | nil => rw [List.mapM_nil, List.mapM_nil]
  | cons hf _ ih => rw [List.mapM_cons, List.mapM_cons, hf, ih]

theorem map_eq_of_rel {α β γ : Type} {R : α → β → Prop} {f : α → γ} {g : β → γ} {o : Option α}
    {o' : Option β} (h : Option.Rel R o o') (hf : ∀ a b, o = some a → R a b → f a = g b) :
    o.map f = o'.map g := by
  cases h with
  | none => rfl
  | some hr => rw [Option.map_some, Option.map_some, hf _ _ rfl hr]

theorem bind_eq_of_rel {α β γ : Type} {R : α → β → Prop} {f : α → Option γ} {g : β → Option γ}
    {o : Option α} {o' : Option β} (h : Option.Rel R o o') (hf : ∀ a b, R a b → f a = g b) :
    o.bind f = o'.bind g := by
  cases h with
  | none => rfl
  | some hr => rw [Option.bind_some, Option.bind_some, hf _ _ hr]

theorem none_or_some_of_rel {α β : Type} {R : α → β → Prop} {o : Option α} {o' : Option β}
    (h : Option.Rel R o o') :
    (o = none ∧ o' = none) ∨ ∃ a b, o = some a ∧ o' = some b ∧ R a b := by
  cases h with
  | none => exact .inl ⟨rfl, rfl⟩
  | some hr => exact .inr ⟨_, _, rfl, rfl, hr⟩

theorem isEmpty_eq_of_forall₂ {α β : Type} {R : α → β → Prop} {xs : List α} {ys : List β}
    (h : List.Forall₂ R xs ys) : xs.isEmpty = ys.isEmpty := by
  cases h <;> rfl

namespace Schema

/-- One node is respelled: a type becomes a list, and where null is allowed it is listed with it,
before or behind it. -/
inductive Retyped : Schema → Schema → Prop
  | same (s : Schema) : Retyped s s
  | listed {s : Schema} {name : String} (ht : s.type = some (.single name)) (hn : name ≠ "null") :
      Retyped s { s with type := some (.several [name]) }
  | nullLast {s : Schema} {name : String} (ht : s.type = some (.single name)) (hn : name ≠ "null")
      (h : s.nullable) (kept : Bool) :
      Retyped s { s with type := some (.several [name, "null"]), nullable := kept }
  | nullFirst {s : Schema} {name : String} (ht : s.type = some (.single name)) (hn : name ≠ "null")
      (h : s.nullable) (kept : Bool) :
      Retyped s { s with type := some (.several ["null", name]), nullable := kept }

/-- A schema is respelled at any of its nodes. -/
inductive Respells : Schema → Schema → Prop
  | node {s t : Schema} {properties : List (String × Schema)} {items : Option Schema}
      (h : Retyped s t) (hp : List.Forall₂ (Keyed Respells) s.properties properties)
      (hi : Option.Rel Respells s.items items) :
      Respells s { t with properties := properties, items := items }

mutual

theorem Respells.refl : (s : Schema) → Respells s s
  | { properties := properties, items := items, .. } =>
    .node (.same _) (keyed_respells_refl properties) (rel_respells_refl items)

theorem keyed_respells_refl : (properties : List (String × Schema)) →
    List.Forall₂ (Keyed Respells) properties properties
  | [] => .nil
  | (name, s) :: rest => .cons (.intro name (Respells.refl s)) (keyed_respells_refl rest)

theorem rel_respells_refl : (items : Option Schema) → Option.Rel Respells items items
  | none => .none
  | some s => .some (Respells.refl s)

end

/-- All that is read of a node is the same, and what is inside of it is respelled. -/
structure ReadsAs (s t : Schema) : Prop where
  kind : s.kind = t.kind
  isNullable : s.isNullable = t.isNullable
  literals : s.literals? = t.literals?
  format : s.format = t.format
  description : s.description = t.description
  required : s.required = t.required
  reference : s.reference = t.reference
  defaultValue : s.defaultValue = t.defaultValue
  exampleValue : s.exampleValue = t.exampleValue
  properties : List.Forall₂ (Keyed Respells) s.properties t.properties
  items : Option.Rel Respells s.items t.items

theorem kind_eq_of_keywords {s t : Schema} (hr : s.reference = t.reference)
    (ht : s.type.map TypeKeyword.kind = t.type.map TypeKeyword.kind)
    (hp : s.properties.isEmpty = t.properties.isEmpty) : s.kind = t.kind := by
  unfold kind
  rw [hr, hp]
  cases hs : s.type <;> cases ht' : t.type <;> simp_all

theorem Retyped.kind {s t : Schema} (h : Retyped s t) :
    s.type.map TypeKeyword.kind = t.type.map TypeKeyword.kind := by
  cases h with
  | same => rfl
  | listed ht hn => simp [ht, TypeKeyword.kind, hn]
  | nullLast ht hn => simp [ht, TypeKeyword.kind, hn]
  | nullFirst ht hn => simp [ht, TypeKeyword.kind, hn]

theorem Retyped.isNullable {s t : Schema} (h : Retyped s t) : s.isNullable = t.isNullable := by
  cases h with
  | same => rfl
  | listed ht hn => simp [Schema.isNullable, ht, TypeKeyword.allowsNull, Ne.symm hn]
  | nullLast ht hn h => simp [Schema.isNullable, ht, TypeKeyword.allowsNull, h]
  | nullFirst ht hn h => simp [Schema.isNullable, ht, TypeKeyword.allowsNull, h]

theorem Respells.readsAs {s t : Schema} (h : Respells s t) : ReadsAs s t := by
  cases h with
  | @node _ middle properties items h hp hi =>
    have hreference : s.reference = middle.reference := by
      cases h <;> rfl
    exact {
      kind := kind_eq_of_keywords hreference h.kind (isEmpty_eq_of_forall₂ hp)
      isNullable := h.isNullable
      literals := by cases h <;> rfl
      format := by cases h <;> rfl
      description := by cases h <;> rfl
      required := by cases h <;> rfl
      reference := hreference
      defaultValue := by cases h <;> rfl
      exampleValue := by cases h <;> rfl
      properties := hp
      items := hi }

namespace ReadsAs

variable {s t : Schema}

theorem typeExpr_eq_of_items (h : ReadsAs s t) (hi : s.items.map typeExpr = t.items.map typeExpr) :
    s.typeExpr = t.typeExpr :=
  typeExpr_congr h.reference h.literals h.kind h.format h.isNullable hi

end ReadsAs

theorem Respells.typeExpr_eq : (s : Schema) → {t : Schema} → Respells s t → s.typeExpr = t.typeExpr
  | { items := none, .. }, t, h => by
    have hitems := map_eq_of_rel (f := typeExpr) (g := typeExpr) h.readsAs.items nofun
    exact h.readsAs.typeExpr_eq_of_items hitems
  | { items := some items, .. }, t, h => by
    have hitems := map_eq_of_rel (f := typeExpr) (g := typeExpr) h.readsAs.items
      fun a b ha hr => by
        cases ha
        exact typeExpr_eq items hr
    exact h.readsAs.typeExpr_eq_of_items hitems

theorem Respells.kind_eq {s t : Schema} (h : Respells s t) : s.kind = t.kind := h.readsAs.kind

theorem ReadsAs.element {s t : Schema} (h : ReadsAs s t) :
    Option.Rel Respells s.element? t.element? := by
  unfold element?
  rw [h.kind]
  split
  · exact h.items
  · exact .none

end Schema

namespace RequestBody

open Schema (Respells)

variable {doc doc' : Document} {s t : Schema}

theorem ofLeaf_eq_of_respells (h : Respells s t) : ofLeaf s = ofLeaf t := by
  have hr := h.readsAs
  rw [ofLeaf, ofLeaf, h.typeExpr_eq, hr.kind, hr.literals, hr.isNullable, hr.description]

/-- What a schema becomes does not depend on the spelling, neither its own nor that of the
components: by the levels that are left. -/
theorem flattenFrom_eq_of_respells
    (hd : ∀ name, Option.Rel Respells (doc.schema? name) (doc'.schema? name)) (levels : Nat)
    (enclosing : List String) (origin : Option Origin) (h : Respells s t) :
    flattenFrom doc levels enclosing origin s = flattenFrom doc' levels enclosing origin t := by
  induction levels generalizing enclosing origin s t with
  | zero => rw [flattenFrom_zero, flattenFrom_zero, h.readsAs.description]
  | succ levels ih =>
    have hr := h.readsAs
    cases hs : s.reference with
    | some reference =>
      have ht : t.reference = some reference := hr.reference ▸ hs
      cases hn : Reference.componentName? reference .schemas with
      | none => rw [flattenFrom_foreign hs hn, flattenFrom_foreign ht hn]
      | some name =>
        rcases none_or_some_of_rel (hd name) with
          ⟨hfound, hfound'⟩ | ⟨target, target', hfound, hfound', htarget⟩
        · rw [flattenFrom_missing hs hn hfound, flattenFrom_missing ht hn hfound']
        · have hl : Leads doc s ⟨name, reference⟩ target := ⟨hs, hn, hfound⟩
          have hl' : Leads doc' t ⟨name, reference⟩ target' := ⟨ht, hn, hfound'⟩
          rw [flattenFrom_leads hl, flattenFrom_leads hl', htarget.kind_eq, hr.isNullable,
            hr.description, ih _ _ htarget]
    | none =>
      have ht : t.reference = none := hr.reference ▸ hs
      by_cases ho : s.kind = .object
      · rw [flattenFrom_object ho, flattenFrom_object (hr.kind ▸ ho), hr.required]
        congr 1
        refine mapM_congr_of_forall₂ (hr.properties.imp ?_)
        rintro _ _ ⟨key, hp⟩
        simp only [ih enclosing none hp, hp.readsAs.description]
      · by_cases ha : s.kind = .array
        · rw [flattenFrom_array ha, flattenFrom_array (hr.kind ▸ ha)]
          rcases none_or_some_of_rel hr.items with ⟨hi, hi'⟩ | ⟨items, items', hi, hi', hitems⟩
          · rw [hi, hi']
          · simp only [hi, hi', ih enclosing none hitems]
        · rw [flattenFrom_leaf hs ho ha, flattenFrom_leaf ht (hr.kind ▸ ho) (hr.kind ▸ ha),
            ofLeaf_eq_of_respells h]

end RequestBody

namespace Entity

open Schema (Respells)

variable {doc doc' : Document} {policy : ReferencePolicy} {s t : Schema}

theorem recordProperty_eq_of_respells (name : String) (required : Bool)
    (found : TypeExpr × Option String) (nested : List EntityProperty) (h : Respells s t) :
    recordProperty name required s found nested = recordProperty name required t found nested := by
  have hr := h.readsAs
  have hkind : s.element?.map Schema.kind = t.element?.map Schema.kind :=
    map_eq_of_rel hr.element fun _ _ _ he => he.kind_eq
  have hformat : s.element?.bind Schema.format = t.element?.bind Schema.format :=
    bind_eq_of_rel hr.element fun _ _ he => he.readsAs.format
  have hliterals : s.element?.bind Schema.literals? = t.element?.bind Schema.literals? :=
    bind_eq_of_rel hr.element fun _ _ he => he.readsAs.literals
  rw [recordProperty, recordProperty, hkind, hformat, hliterals, hr.kind, hr.isNullable, hr.format,
    hr.description, hr.literals, hr.defaultValue, hr.exampleValue]

theorem followAll_eq_of_respells (hd : resolves doc = resolves doc') (context : String)
    (h : Respells s t) : followAll doc policy context s = followAll doc' policy context t := by
  have hr := h.readsAs
  have hcheck : checkReference doc = checkReference doc' := by
    funext policy context reference
    unfold checkReference
    rw [hd]
  have hfollow : followReference doc = followReference doc' := by
    funext policy context otherwise reference current
    unfold followReference
    rw [hcheck]
  have hreference : s.element?.bind Schema.reference = t.element?.bind Schema.reference :=
    bind_eq_of_rel hr.element fun _ _ he => he.readsAs.reference
  rw [followAll, followAll, hfollow, hr.reference, hreference, h.typeExpr_eq]

theorem flattenProperty_eq_of_nested (hd : resolves doc = resolves doc') (name context : String)
    (required : Bool) (h : Respells s t)
    (hi : flattenItems doc policy context s.items = flattenItems doc' policy context t.items)
    (hp : flattenAll doc policy context s.required s.properties
      = flattenAll doc' policy context t.required t.properties) :
    flattenProperty doc policy name context required s
      = flattenProperty doc' policy name context required t := by
  have hnested : flattenNested doc policy context s = flattenNested doc' policy context t := by
    unfold flattenNested
    rw [h.kind_eq, hi, hp]
  rw [flattenProperty_eq, flattenProperty_eq, followAll_eq_of_respells hd context h, hnested]
  simp only [recordProperty_eq_of_respells name required _ _ h]

mutual

theorem flattenProperty_eq_of_respells (hd : resolves doc = resolves doc') : (s : Schema) →
    {t : Schema} → (name context : String) → (required : Bool) → Respells s t →
    flattenProperty doc policy name context required s
      = flattenProperty doc' policy name context required t
  | { properties := properties, items := items, .. }, t, name, context, required, h => by
    have hr := h.readsAs
    have hi := flattenItems_eq_of_respells hd items context hr.items
    have hp := flattenAll_eq_of_respells hd properties context t.required hr.properties
    exact flattenProperty_eq_of_nested hd name context required h hi (hr.required ▸ hp)

theorem flattenItems_eq_of_respells (hd : resolves doc = resolves doc') : (items : Option Schema) →
    {items' : Option Schema} → (context : String) → Option.Rel Respells items items' →
    flattenItems doc policy context items = flattenItems doc' policy context items'
  | none, _, context, .none => rfl
  | some { properties := properties, .. }, _, context, .some h => by
    have hr := h.readsAs
    rw [flattenItems_some, flattenItems_some, hr.kind, hr.required]
    split
    · exact flattenAll_eq_of_respells hd properties context _ hr.properties
    · rfl

theorem flattenAll_eq_of_respells (hd : resolves doc = resolves doc') :
    (properties : List (String × Schema)) → {properties' : List (String × Schema)} →
    (owner : String) → (required : List String) →
    List.Forall₂ (Keyed Respells) properties properties' →
    flattenAll doc policy owner required properties
      = flattenAll doc' policy owner required properties'
  | [], _, owner, required, .nil => by
    rw [flattenAll, flattenAll]
  | (_, s) :: rest, _, owner, required, .cons (.intro name h) hrest => by
    rw [flattenAll, flattenAll, flattenProperty_eq_of_respells hd s name _ _ h,
      flattenAll_eq_of_respells hd rest owner required hrest]

end

end Entity
end OpenApiGen
