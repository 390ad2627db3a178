import OpenApiGen.Proofs.SchemaWalks
import OpenApiGen.Proofs.TypeSpellings

/-!
# One stack of names for all properties

Flattening can keep the names that are being followed on one stack, which every schema inside of the
first one pushes to and pops from. Each of them leaves the stack as it was, however it ends, so that
a property comes to the same body beside any others: it depends on its schema, the depth and which
names enclose it. In another order, properties make the same objects with the entries in another
order.
-/

namespace OpenApiGen

namespace RequestBody

/-- Flattening with one stack: a name is on it for as long as its schema is being followed. -/
def flattenStacked (doc : Document) (levels : Nat) (origin : Option Origin) (schema : Schema) :
    StateT (List String) Traced (Option RequestBody) :=
  match levels with
  | 0 => do
    Traced.report (.bodyTruncated (deepest + 1))
    return some (untyped schema.description)
  | levels + 1 => do
    match schema.reference with
    | some reference =>
      match Reference.componentName? reference .schemas with
      | none =>
        Traced.report (.bodyReferenceForeign reference (Reference.classify reference))
        return none
      | some name =>
        match doc.schema? name with
        | none =>
          Traced.report (.bodySchemaMissing reference)
          return none
        | some target =>
          if (← get).contains name then
            if target.kind = .object then
              Traced.report (.bodyCycleCut name)
              return some (.cut name schema.isNullable schema.description)
            else
              Traced.report (.bodyCycleUntyped name)
              return some (untyped schema.description)
          else
            modify (name :: ·)
            let body ← flattenStacked doc levels (some ⟨name, reference⟩) target
            modify List.tail
            return body
    | none =>
      match schema.kind with
      | .object =>
        let properties ← schema.properties.mapM fun (name, property) => do
          let body ← flattenStacked doc levels none property
          return (name, body.getD (untyped property.description))
        return some (.object origin schema.required properties)
      | .array => match schema.items with
        | none => return some (.array (untyped none))
        | some items =>
          let item ← flattenStacked doc levels none items
          return some (.array (item.getD (untyped none)))
      | _ => return some (ofLeaf schema)

/-- What becomes of a schema: its reference leads nowhere or is followed, or it has a kind. -/
inductive Course (doc : Document) (schema : Schema) : Prop
  | foreign {reference} (hr : schema.reference = some reference)
      (hn : Reference.componentName? reference .schemas = none)
  | missing {reference name} (hr : schema.reference = some reference)
      (hn : Reference.componentName? reference .schemas = some name) (ht : doc.schema? name = none)
  | leads {next target} (hl : Leads doc schema next target)
  | object (hk : schema.kind = .object)
  | array (hk : schema.kind = .array)
  | leaf (hr : schema.reference = none) (ho : schema.kind ≠ .object) (ha : schema.kind ≠ .array)

variable {doc doc' : Document} {levels : Nat} {enclosing enclosing' : List String}
  {origin : Option Origin} {schema s t : Schema}

theorem course (doc : Document) (schema : Schema) : Course doc schema := by
  cases hr : schema.reference with
  | some reference =>
    cases hn : Reference.componentName? reference .schemas with
    | none => exact .foreign hr hn
    | some name =>
      cases ht : doc.schema? name with
      | none => exact .missing hr hn ht
      | some target =>
        have hl : Leads doc schema ⟨name, reference⟩ target := ⟨hr, hn, ht⟩
        exact .leads hl
  | none =>
    by_cases ho : schema.kind = .object
    · exact .object ho
    · by_cases ha : schema.kind = .array
      · exact .array ha
      · exact .leaf hr ho ha

theorem value_flattenFrom_object (hk : schema.kind = .object) :
    (flattenFrom doc (levels + 1) enclosing origin schema).value =
      some (.object origin schema.required (bodiesOf schema.properties fun property =>
        (flattenFrom doc levels enclosing none property).value)) := by
  rw [flattenFrom_object hk]
  simp [bodiesOf]

theorem value_flattenFrom_array (hk : schema.kind = .array) :
    (flattenFrom doc (levels + 1) enclosing origin schema).value =
      some (.array ((schema.items.bind fun items =>
        (flattenFrom doc levels enclosing none items).value).getD (untyped none))) := by
  rw [flattenFrom_array hk]
  cases schema.items <;> rfl

/-! ## What the stack holds -/

/-- Computations that leave the stack as it was do so one after another. -/
theorem run_mapM_of_restores {α β : Type} {f : α → StateT (List String) Traced β}
    {g : α → Traced β} (stack : List String)
    (h : ∀ a, (f a).run stack = (fun b => (b, stack)) <$> g a) (as : List α) :
    (as.mapM f).run stack = (fun bs => (bs, stack)) <$> as.mapM g := by
  induction as with
  | nil => simp
  | cons a as ih => simp [h, ih]

/-- The stack is left as it was found, whatever happened, and the names on it are those that
enclose the schema: by the levels that are left. -/
theorem run_flattenStacked (doc : Document) (levels : Nat) (stack : List String)
    (origin : Option Origin) (schema : Schema) :
    (flattenStacked doc levels origin schema).run stack =
      (fun body => (body, stack)) <$> flattenFrom doc levels stack origin schema := by
  induction levels generalizing stack origin schema with
  | zero =>
    rw [flattenStacked, flattenFrom_zero]
    simp
  | succ levels ih =>
    rw [flattenStacked]
    cases course doc schema with
    | foreign hr hn =>
      rw [flattenFrom_foreign hr hn]
      simp [hr, hn]
    | missing hr hn ht =>
      rw [flattenFrom_missing hr hn ht]
      simp [hr, hn, ht]
    | @leads next target hl =>
      rw [flattenFrom_leads hl]
      obtain ⟨hr, hn, ht⟩ := hl
      by_cases he : next.name ∈ stack
      · by_cases hk : target.kind = .object <;> simp [hr, hn, ht, he, hk]
      · -- what is popped is the name that was pushed
        simp [hr, hn, ht, he, ih]
    | object hk =>
      have hr : schema.reference = none := Schema.reference_eq_none (by simp [hk])
      have hproperty : ∀ property : String × Schema,
          ((fun body => (property.1, body.getD (untyped property.2.description))) <$>
            flattenStacked doc levels none property.2).run stack =
          (fun entry => (entry, stack)) <$>
            (fun body => (property.1, body.getD (untyped property.2.description))) <$>
              flattenFrom doc levels stack none property.2 := by
        intro property
        simp [ih]
      rw [flattenFrom_object hk]
      simp [hr, hk, run_mapM_of_restores stack hproperty]
    | array hk =>
      have hr : schema.reference = none := Schema.reference_eq_none (by simp [hk])
      rw [flattenFrom_array hk]
      cases schema.items <;> simp [hr, hk, ih]
    | leaf hr ho ha =>
      rw [flattenFrom_leaf hr ho ha]
      simp [hr]

/-- Of the enclosing names, only which they are is read. -/
theorem flattenFrom_eq_of_mem_iff (h : ∀ name, name ∈ enclosing ↔ name ∈ enclosing') (levels : Nat)
    (origin : Option Origin) (schema : Schema) :
    flattenFrom doc levels enclosing origin schema
      = flattenFrom doc levels enclosing' origin schema := by
  induction levels generalizing enclosing enclosing' origin schema with
  | zero => rw [flattenFrom_zero, flattenFrom_zero]
  | succ levels ih =>
    cases course doc schema with
    | foreign hr hn => rw [flattenFrom_foreign hr hn, flattenFrom_foreign hr hn]
    | missing hr hn ht => rw [flattenFrom_missing hr hn ht, flattenFrom_missing hr hn ht]
    | @leads next target hl =>
      have hpushed : ∀ name, name ∈ next.name :: enclosing ↔ name ∈ next.name :: enclosing' := by
        simp [h]
      have hcut : enclosing.contains next.name = enclosing'.contains next.name := by
        rw [Bool.eq_iff_iff, List.contains_iff_mem, List.contains_iff_mem, h]
      rw [flattenFrom_leads hl, flattenFrom_leads hl, hcut, ih hpushed]
    | object hk =>
      rw [flattenFrom_object hk, flattenFrom_object hk]
      simp only [ih h]
    | array hk =>
      rw [flattenFrom_array hk, flattenFrom_array hk]
      simp only [ih h]
    | leaf hr ho ha => rw [flattenFrom_leaf hr ho ha, flattenFrom_leaf hr ho ha]

end RequestBody

/-! ## The order of properties -/

/-- The properties of a schema stand in another order, and likewise at any of its nodes. -/
inductive Schema.Reorders : Schema → Schema → Prop
  | node {s : Schema} {middle properties : List (String × Schema)} {items : Option Schema}
      (hp : List.Forall₂ (Keyed Reorders) s.properties middle) (hperm : middle.Perm properties)
      (hi : Option.Rel Reorders s.items items) :
      Reorders s { s with properties := properties, items := items }

/-- The same components, with their properties in another order. -/
def Document.Reorders (doc doc' : Document) : Prop :=
  ∀ name, Option.Rel Schema.Reorders (doc.schema? name) (doc'.schema? name)

/-- The entries of objects stand in another order, at any depth, and nothing else differs. -/
inductive RequestBody.Reorders : RequestBody → RequestBody → Prop
  | same (body : RequestBody) : Reorders body body
  | object {properties middle properties' : List (String × RequestBody)} (origin : Option Origin)
      (required : List String) (hp : List.Forall₂ (Keyed Reorders) properties middle)
      (hperm : middle.Perm properties') :
      Reorders (.object origin required properties) (.object origin required properties')
  | array {item item' : RequestBody} (h : Reorders item item') :
      Reorders (.array item) (.array item')

namespace Schema

variable {s t : Schema}

theorem Reorders.kind_eq (h : Reorders s t) : s.kind = t.kind := by
  cases h with
  | node hp hperm hi =>
    exact kind_eq_of_keywords rfl rfl ((isEmpty_eq_of_forall₂ hp).trans hperm.isEmpty_eq)

theorem Reorders.reference_eq (h : Reorders s t) : s.reference = t.reference := by
  cases h with
  | node => rfl

theorem Reorders.isNullable_eq (h : Reorders s t) : s.isNullable = t.isNullable := by
  cases h with
  | node => rfl

theorem Reorders.description_eq (h : Reorders s t) : s.description = t.description := by
  cases h with
  | node => rfl

theorem Reorders.items (h : Reorders s t) : Option.Rel Reorders s.items t.items := by
  cases h with
  | node hp hperm hi => exact hi

theorem Reorders.typeExpr_eq_of_items (h : Reorders s t)
    (hi : s.items.map typeExpr = t.items.map typeExpr) : s.typeExpr = t.typeExpr := by
  have hkind := h.kind_eq
  cases h with
  | node => exact typeExpr_congr rfl rfl hkind rfl rfl hi

theorem Reorders.typeExpr_eq : (s : Schema) → {t : Schema} → Reorders s t → s.typeExpr = t.typeExpr
  | { items := none, .. }, t, h => by
    have hitems := map_eq_of_rel (f := typeExpr) (g := typeExpr) h.items nofun
    exact h.typeExpr_eq_of_items hitems
  | { items := some items, .. }, t, h => by
    have hitems := map_eq_of_rel (f := typeExpr) (g := typeExpr) h.items
      fun a b ha hr => by
        cases ha
        exact typeExpr_eq items hr
    exact h.typeExpr_eq_of_items hitems

end Schema

namespace RequestBody

variable {doc doc' : Document} {s t : Schema}

theorem ofLeaf_eq_of_reorders (h : Schema.Reorders s t) : ofLeaf s = ofLeaf t := by
  have htype := h.typeExpr_eq
  have hkind := h.kind_eq
  cases h with
  | node =>
    rw [ofLeaf, ofLeaf, htype, hkind]
    rfl

theorem reorders_getD {result result' : Option RequestBody} (h : Option.Rel Reorders result result')
    (description : Option String) :
    Reorders (result.getD (untyped description)) (result'.getD (untyped description)) := by
  cases h with
  | none => exact .same _
  | some h => exact h

/-- Entries in another order come from properties in another order. -/
theorem reorders_object {properties middle properties' : List (String × Schema)}
    {resultOf resultOf' : Schema → Option RequestBody} (origin : Option Origin)
    (required : List String)
    (hp : List.Forall₂ (Keyed Schema.Reorders) properties middle) (hperm : middle.Perm properties')
    (hresult : ∀ s t, Schema.Reorders s t → Option.Rel Reorders (resultOf s) (resultOf' t)) :
    Reorders (.object origin required (bodiesOf properties resultOf))
      (.object origin required (bodiesOf properties' resultOf')) := by
  have hbodies : List.Forall₂ (Keyed Reorders) (bodiesOf properties resultOf)
      (bodiesOf middle resultOf') := by
    simp only [bodiesOf, List.forall₂_map_left_iff, List.forall₂_map_right_iff]
    refine hp.imp ?_
    rintro _ _ ⟨key, h⟩
    rw [← h.description_eq]
    exact .intro key (reorders_getD (hresult _ _ h) _)
  exact .object origin required hbodies (hperm.map _)

/-- Properties in another order make the same body with the entries of its objects in another order:
by the levels that are left. -/
theorem reorders_flattenFrom (hd : doc.Reorders doc') (levels : Nat) (enclosing : List String)
    (origin : Option Origin) (h : Schema.Reorders s t) :
    Option.Rel Reorders (flattenFrom doc levels enclosing origin s).value
      (flattenFrom doc' levels enclosing origin t).value := by
  induction levels generalizing enclosing origin s t with
  | zero =>
    rw [flattenFrom_zero, flattenFrom_zero, ← h.description_eq]
    exact .some (.same _)
  | succ levels ih =>
    have hkind := h.kind_eq
    have hreference := h.reference_eq
    cases course doc s with
    | foreign hr hn =>
      rw [flattenFrom_foreign hr hn, flattenFrom_foreign (hreference ▸ hr) hn]
      exact .none
    | @missing reference name hr hn ht =>
      obtain ⟨-, ht'⟩ | ⟨_, _, htarget, -, -⟩ := none_or_some_of_rel (hd name)
      · rw [flattenFrom_missing hr hn ht, flattenFrom_missing (hreference ▸ hr) hn ht']
        exact .none
      · cases ht.symm.trans htarget
    | @leads next target hl =>
      obtain ⟨hr, hn, ht⟩ := hl
      obtain ⟨hmissing, -⟩ | ⟨found, target', hfound, ht', htarget⟩ :=
        none_or_some_of_rel (hd next.name)
      · cases ht.symm.trans hmissing
      · cases ht.symm.trans hfound
        rw [flattenFrom_leads ⟨hr, hn, ht⟩, flattenFrom_leads ⟨hreference ▸ hr, hn, ht'⟩,
          ← htarget.kind_eq, ← h.isNullable_eq, ← h.description_eq]
        split
        · split
          · exact .some (.same _)
          · exact .some (.same _)
        · exact ih _ _ htarget
    | object hk =>
      rw [value_flattenFrom_object hk, value_flattenFrom_object (hkind ▸ hk)]
      cases h with
      | node hp hperm hi =>
        exact .some (reorders_object origin _ hp hperm fun _ _ h => ih enclosing none h)
    | array hk =>
      rw [value_flattenFrom_array hk, value_flattenFrom_array (hkind ▸ hk)]
      refine .some (.array (reorders_getD ?_ none))
      obtain ⟨hi, hi'⟩ | ⟨items, items', hi, hi', hitems⟩ := none_or_some_of_rel h.items
      · rw [hi, hi']
        exact .none
      · rw [hi, hi']
        exact ih enclosing none hitems
    | leaf hr ho ha =>
      rw [flattenFrom_leaf hr ho ha, flattenFrom_leaf (hreference ▸ hr) (hkind ▸ ho) (hkind ▸ ha),
        ofLeaf_eq_of_reorders h]
      exact .some (.same _)

/-- Whatever stands on the stack, flattening leaves it as it was. A property comes to what it comes
to alone with the names that enclose it, of which only the set counts. Properties in another order,
in the schema or in any that it refers to, do no more than put entries in another order. -/
theorem properties_flatten_apart (doc : Document) (levels : Nat) (stack : List String)
    (origin : Option Origin) (schema : Schema) :
    (flattenStacked doc levels origin schema).run stack =
        (fun body => (body, stack)) <$> flattenFrom doc levels stack origin schema ∧
      (∀ stack', (∀ name, name ∈ stack ↔ name ∈ stack') →
        flattenFrom doc levels stack origin schema = flattenFrom doc levels stack' origin schema) ∧
      (schema.kind = .object →
        ((flattenStacked doc (levels + 1) origin schema).run stack).value =
          (some (.object origin schema.required (bodiesOf schema.properties fun property =>
            ((flattenStacked doc levels none property).run stack).value.1)), stack)) ∧
      ∀ doc' schema', doc.Reorders doc' → schema.Reorders schema' →
        Option.Rel Reorders (flattenFrom doc levels stack origin schema).value
          (flattenFrom doc' levels stack origin schema').value := by
  refine ⟨run_flattenStacked doc levels stack origin schema, ?_, ?_, ?_⟩
  · intro stack' hnames
    exact flattenFrom_eq_of_mem_iff hnames levels origin schema
  · intro hk
    simp only [run_flattenStacked, Traced.value_map, value_flattenFrom_object hk]
  · intro doc' schema' hdoc hschema
    exact reorders_flattenFrom hdoc levels stack origin hschema

/-- Two properties with one schema. -/
def pairSchema : Schema := { properties := [("left", nodeReference), ("right", nodeReference)] }

def turnedPair : Schema := { properties := [("right", nodeReference), ("left", nodeReference)] }

def turnedNode : Schema :=
  { properties := [("next", nodeReference), ("labels", labelsSchema)], required := ["labels"] }

def turnedDocument : Document :=
  { nodeDocument with components := { schemas := [("Node", turnedNode)] } }

theorem reorders_nodeReference : nodeReference.Reorders nodeReference :=
  .node .nil (.refl _) .none

theorem reorders_labels : labelsSchema.Reorders labelsSchema :=
  .node .nil (.refl _) (.some (.node .nil (.refl _) .none))

theorem reorders_pair : pairSchema.Reorders turnedPair :=
  .node (.cons (.intro "left" reorders_nodeReference) (.cons (.intro "right" reorders_nodeReference)
    .nil)) (.swap _ _ _) .none

theorem reorders_node : nodeSchema.Reorders turnedNode :=
  .node (.cons (.intro "labels" reorders_labels) (.cons (.intro "next" reorders_nodeReference)
    .nil)) (.swap _ _ _) .none

theorem reorders_nodeDocument : nodeDocument.Reorders turnedDocument := by
  intro name
  by_cases hn : "Node" = name
  · simpa [Document.schema?, nodeDocument, turnedDocument, KeyedList.find?, hn]
      using Option.Rel.some reorders_node
  · simp [Document.schema?, nodeDocument, turnedDocument, KeyedList.find?, hn]

/-- The second property of one schema is no re-entry of the first. -/
theorem properties_flatten_apart_pair :
    (∀ name, name ∈ ["Tree", "Leaf"] ↔ name ∈ ["Leaf", "Tree", "Leaf"]) ∧
      pairSchema.kind = .object ∧ nodeDocument.Reorders turnedDocument ∧
      pairSchema.Reorders turnedPair ∧
      flattenFrom nodeDocument 3 ["Tree", "Leaf"] none pairSchema
        = flattenFrom nodeDocument 3 ["Leaf", "Tree", "Leaf"] none pairSchema ∧
      ((flattenStacked nodeDocument 4 none pairSchema).run ["Tree", "Leaf"]).value =
        (some (.object none [] (bodiesOf pairSchema.properties fun property =>
          ((flattenStacked nodeDocument 3 none property).run ["Tree", "Leaf"]).value.1)),
          ["Tree", "Leaf"]) ∧
      Option.Rel Reorders (flattenFrom nodeDocument 3 ["Tree", "Leaf"] none pairSchema).value
        (flattenFrom turnedDocument 3 ["Tree", "Leaf"] none turnedPair).value := by
  have hnames : ∀ name, name ∈ ["Tree", "Leaf"] ↔ name ∈ ["Leaf", "Tree", "Leaf"] := by
    intro name
    simp only [List.mem_cons, List.not_mem_nil, or_false]
    tauto
  obtain ⟨-, hset, halone, horder⟩ :=
    properties_flatten_apart nodeDocument 3 ["Tree", "Leaf"] none pairSchema
  exact ⟨hnames, rfl, reorders_nodeDocument, reorders_pair, hset _ hnames, halone rfl,
    horder _ _ reorders_nodeDocument reorders_pair⟩

end RequestBody
end OpenApiGen
