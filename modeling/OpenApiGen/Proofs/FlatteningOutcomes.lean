import OpenApiGen.Proofs.BodyFlattening

/-!
# What becomes of a schema, level by level

The rules of `Outcome` say what a schema gives at a depth, whatever goes wrong on the way. A
derivation is a finite tree, so that there is one for every schema says that following references
comes to an end; its result is that of flattening.
-/

namespace OpenApiGen

/-- A part of a body was given up: it was too deep, or in a circle that is no object's. -/
def Event.isLossy : Event → Bool
  | .bodyTruncated _ | .bodyCycleUntyped _ => true
  | _ => false

namespace RequestBody

/-- The bodies of properties; one whose reference leads nowhere is untyped. -/
def bodiesOf (properties : List (String × Schema)) (resultOf : Schema → Option RequestBody) :
    List (String × RequestBody) :=
  properties.map fun property =>
    (property.1, (resultOf property.2).getD (untyped property.2.description))

/-- A schema at a depth, inside of schemas of these names and reached by this reference, gives a
body, or nothing where its own reference leads nowhere. Two rules apply only where parts may be given
up. -/
inductive Outcome (doc : Document) (lossy : Prop) :
    Nat → List String → Option Origin → Schema → Option RequestBody → Prop
  | truncated {depth enclosing origin schema} (hd : deepest < depth) (hlossy : lossy) :
      Outcome doc lossy depth enclosing origin schema (some (untyped schema.description))
  | foreign {depth enclosing origin schema reference} (hd : depth ≤ deepest)
      (hr : schema.reference = some reference)
      (hn : Reference.componentName? reference .schemas = none) :
      Outcome doc lossy depth enclosing origin schema none
  | missing {depth enclosing origin schema reference name} (hd : depth ≤ deepest)
      (hr : schema.reference = some reference)
      (hn : Reference.componentName? reference .schemas = some name)
      (ht : doc.schema? name = none) : Outcome doc lossy depth enclosing origin schema none
  | cut {depth enclosing origin schema next target} (hd : depth ≤ deepest)
      (hl : Leads doc schema next target) (hn : next.name ∈ enclosing) (hk : target.kind = .object) :
      Outcome doc lossy depth enclosing origin schema
        (some (.cut next.name schema.isNullable schema.description))
  | looped {depth enclosing origin schema next target} (hd : depth ≤ deepest)
      (hl : Leads doc schema next target) (hn : next.name ∈ enclosing) (hk : target.kind ≠ .object)
      (hlossy : lossy) :
      Outcome doc lossy depth enclosing origin schema (some (untyped schema.description))
  | follow {depth enclosing origin schema next target result} (hd : depth ≤ deepest)
      (hl : Leads doc schema next target) (hn : next.name ∉ enclosing)
      (h : Outcome doc lossy (depth + 1) (next.name :: enclosing) (some next) target result) :
      Outcome doc lossy depth enclosing origin schema result
  | object {depth enclosing origin schema} (hd : depth ≤ deepest) (hk : schema.kind = .object)
      (resultOf : Schema → Option RequestBody)
      (h : ∀ property ∈ schema.properties,
        Outcome doc lossy (depth + 1) enclosing none property.2 (resultOf property.2)) :
      Outcome doc lossy depth enclosing origin schema
        (some (.object origin schema.required (bodiesOf schema.properties resultOf)))
  | itemless {depth enclosing origin schema} (hd : depth ≤ deepest) (hk : schema.kind = .array)
      (hi : schema.items = none) :
      Outcome doc lossy depth enclosing origin schema (some (.array (untyped none)))
  | array {depth enclosing origin schema items result} (hd : depth ≤ deepest)
      (hk : schema.kind = .array) (hi : schema.items = some items)
      (h : Outcome doc lossy (depth + 1) enclosing none items result) :
      Outcome doc lossy depth enclosing origin schema (some (.array (result.getD (untyped none))))
  | leaf {depth enclosing origin schema} (hd : depth ≤ deepest) (hr : schema.reference = none)
      (ho : schema.kind ≠ .object) (ha : schema.kind ≠ .array) :
      Outcome doc lossy depth enclosing origin schema (some (ofLeaf schema))

namespace Outcome

variable {doc : Document} {lossy : Prop} {depth : Nat} {enclosing : List String}
  {origin : Option Origin} {schema : Schema} {result : Option RequestBody}

/-- A reference is given up, cut, or followed. -/
theorem of_leads (h : Outcome doc lossy depth enclosing origin schema result) {next : Origin}
    {target : Schema} (hl : Leads doc schema next target) :
    (lossy ∧ ∃ description, result = some (untyped description)) ∨
      (target.kind = .object ∧
        ∃ nullable description, result = some (.cut next.name nullable description)) ∨
      ∃ depth' enclosing', Outcome doc lossy depth' enclosing' (some next) target result := by
  cases h with
  | truncated hd hlossy => exact .inl ⟨hlossy, _, rfl⟩
  | foreign hd hr hn =>
    cases hl.1.symm.trans hr
    cases hl.2.1.symm.trans hn
  | missing hd hr hn ht =>
    cases hl.1.symm.trans hr
    cases hl.2.1.symm.trans hn
    cases hl.2.2.symm.trans ht
  | cut hd hl' hn hk =>
    obtain ⟨rfl, rfl⟩ := hl.unique hl'
    exact .inr (.inl ⟨hk, _, _, rfl⟩)
  | looped hd hl' hn hk hlossy => exact .inl ⟨hlossy, _, rfl⟩
  | follow hd hl' hn h =>
    obtain ⟨rfl, rfl⟩ := hl.unique hl'
    exact .inr (.inr ⟨_, _, h⟩)
  | object hd hk => cases hl.kind.symm.trans hk
  | itemless hd hk hi => cases hl.kind.symm.trans hk
  | array hd hk hi => cases hl.kind.symm.trans hk
  | leaf hd hr ho ha => cases hl.1.symm.trans hr

theorem of_object (h : Outcome doc lossy depth enclosing origin schema result)
    (hk : schema.kind = .object) :
    (lossy ∧ ∃ description, result = some (untyped description)) ∨
      ∃ resultOf depth' enclosing',
        result = some (.object origin schema.required (bodiesOf schema.properties resultOf)) ∧
          ∀ property ∈ schema.properties,
            Outcome doc lossy depth' enclosing' none property.2 (resultOf property.2) := by
  have hr : schema.reference = none := Schema.reference_eq_none (by simp [hk])
  cases h with
  | truncated hd hlossy => exact .inl ⟨hlossy, _, rfl⟩
  | foreign hd hr' hn => cases hr.symm.trans hr'
  | missing hd hr' hn ht => cases hr.symm.trans hr'
  | cut hd hl => cases hr.symm.trans hl.1
  | looped hd hl => cases hr.symm.trans hl.1
  | follow hd hl => cases hr.symm.trans hl.1
  | object hd hk resultOf h => exact .inr ⟨resultOf, _, _, rfl, h⟩
  | itemless hd ha hi => cases hk.symm.trans ha
  | array hd ha hi => cases hk.symm.trans ha
  | leaf hd hr ho ha => exact absurd hk ho

theorem of_array (h : Outcome doc lossy depth enclosing origin schema result)
    (hk : schema.kind = .array) :
    (lossy ∧ ∃ description, result = some (untyped description)) ∨
      (schema.items = none ∧ result = some (.array (untyped none))) ∨
      ∃ items item depth' enclosing', schema.items = some items ∧
        result = some (.array (item.getD (untyped none))) ∧
          Outcome doc lossy depth' enclosing' none items item := by
  have hr : schema.reference = none := Schema.reference_eq_none (by simp [hk])
  cases h with
  | truncated hd hlossy => exact .inl ⟨hlossy, _, rfl⟩
  | foreign hd hr' hn => cases hr.symm.trans hr'
  | missing hd hr' hn ht => cases hr.symm.trans hr'
  | cut hd hl => cases hr.symm.trans hl.1
  | looped hd hl => cases hr.symm.trans hl.1
  | follow hd hl => cases hr.symm.trans hl.1
  | object hd ho => cases hk.symm.trans ho
  | itemless hd hk hi => exact .inr (.inl ⟨hi, rfl⟩)
  | array hd hk hi h => exact .inr (.inr ⟨_, _, _, _, hi, rfl, h⟩)
  | leaf hd hr ho ha => exact absurd hk ha

theorem of_leaf (h : Outcome doc lossy depth enclosing origin schema result)
    (hr : schema.reference = none) (ho : schema.kind ≠ .object) (ha : schema.kind ≠ .array) :
    (lossy ∧ ∃ description, result = some (untyped description)) ∨
      result = some (ofLeaf schema) := by
  cases h with
  | truncated hd hlossy => exact .inl ⟨hlossy, _, rfl⟩
  | foreign hd hr' hn => cases hr.symm.trans hr'
  | missing hd hr' hn ht => cases hr.symm.trans hr'
  | cut hd hl => cases hr.symm.trans hl.1
  | looped hd hl => cases hr.symm.trans hl.1
  | follow hd hl => cases hr.symm.trans hl.1
  | object hd hk => exact absurd hk ho
  | itemless hd hk hi => exact absurd hk ha
  | array hd hk hi => exact absurd hk ha
  | leaf => exact .inr rfl

end Outcome

section
variable {doc : Document} {levels : Nat} {enclosing : List String} {origin : Option Origin}
  {schema : Schema}

theorem flattenFrom_zero :
    flattenFrom doc 0 enclosing origin schema = do
      Traced.report (.bodyTruncated (deepest + 1))
      return some (untyped schema.description) := by
  rw [flattenFrom.eq_def]

theorem flattenFrom_foreign {reference : String} (hr : schema.reference = some reference)
    (hn : Reference.componentName? reference .schemas = none) :
    flattenFrom doc (levels + 1) enclosing origin schema = do
      Traced.report (.bodyReferenceForeign reference (Reference.classify reference))
      return none := by
  rw [flattenFrom.eq_def]
  simp only [hr, hn]

theorem flattenFrom_missing {reference name : String} (hr : schema.reference = some reference)
    (hn : Reference.componentName? reference .schemas = some name)
    (ht : doc.schema? name = none) :
    flattenFrom doc (levels + 1) enclosing origin schema = do
      Traced.report (.bodySchemaMissing reference)
      return none := by
  rw [flattenFrom.eq_def]
  simp only [hr, hn, ht]

end

/-- The levels that are left and the depth make up the greatest depth and one. -/
theorem Outcome.value_eq {doc : Document} {lossy : Prop} {depth : Nat} {enclosing : List String}
    {origin : Option Origin} {schema : Schema} {result : Option RequestBody}
    (h : Outcome doc lossy depth enclosing origin schema result) {levels : Nat}
    (hlevels : levels + depth = deepest + 1) :
    (flattenFrom doc levels enclosing origin schema).value = result := by
  induction h generalizing levels with
  | truncated hd =>
    have hzero : levels = 0 := by omega
    subst hzero
    rw [flattenFrom_zero]
    rfl
  | foreign hd hr hn =>
    obtain ⟨below, rfl⟩ : ∃ below, levels = below + 1 := ⟨levels - 1, by omega⟩
    rw [flattenFrom_foreign hr hn]
    rfl
  | missing hd hr hn ht =>
    obtain ⟨below, rfl⟩ : ∃ below, levels = below + 1 := ⟨levels - 1, by omega⟩
    rw [flattenFrom_missing hr hn ht]
    rfl
  | cut hd hl hn hk =>
    obtain ⟨below, rfl⟩ : ∃ below, levels = below + 1 := ⟨levels - 1, by omega⟩
    rw [flattenFrom_leads hl]
    simp [hn, hk]
  | looped hd hl hn hk =>
    obtain ⟨below, rfl⟩ : ∃ below, levels = below + 1 := ⟨levels - 1, by omega⟩
    rw [flattenFrom_leads hl]
    simp [hn, hk]
  | follow hd hl hn _ ih =>
    obtain ⟨below, rfl⟩ : ∃ below, levels = below + 1 := ⟨levels - 1, by omega⟩
    rw [flattenFrom_leads hl, if_neg (by simpa using hn)]
    exact ih (by omega)
  | @object depth enclosing origin schema hd hk resultOf _ ih =>
    obtain ⟨below, rfl⟩ : ∃ below, levels = below + 1 := ⟨levels - 1, by omega⟩
    rw [flattenFrom_object hk]
    simp only [Traced.value_bind, Traced.value_mapM, Traced.value_pure]
    congr 2
    refine List.map_congr_left fun property hp => ?_
    rw [ih property hp (by omega)]
  | itemless hd hk hi =>
    obtain ⟨below, rfl⟩ : ∃ below, levels = below + 1 := ⟨levels - 1, by omega⟩
    rw [flattenFrom_array hk, hi]
    rfl
  | array hd hk hi _ ih =>
    obtain ⟨below, rfl⟩ : ∃ below, levels = below + 1 := ⟨levels - 1, by omega⟩
    rw [flattenFrom_array hk, hi]
    simp only [Traced.value_bind, Traced.value_pure]
    rw [ih (by omega)]
  | leaf hd hr ho ha =>
    obtain ⟨below, rfl⟩ : ∃ below, levels = below + 1 := ⟨levels - 1, by omega⟩
    rw [flattenFrom_leaf hr ho ha]
    rfl

/-- Every schema has an outcome, and one in which nothing is given up if nothing was: by the levels
that are left. -/
theorem outcome_flattenFrom {doc : Document} {lossy : Prop} {levels depth : Nat}
    (hlevels : levels + depth = deepest + 1) {enclosing : List String} {origin : Option Origin}
    {schema : Schema}
    (hlossy : ∀ event ∈ (flattenFrom doc levels enclosing origin schema).events,
      event.isLossy → lossy) :
    Outcome doc lossy depth enclosing origin schema
      (flattenFrom doc levels enclosing origin schema).value := by
  induction levels generalizing depth enclosing origin schema with
  | zero =>
    rw [flattenFrom_zero] at hlossy ⊢
    exact .truncated (by omega) (hlossy (.bodyTruncated (deepest + 1)) (by simp) rfl)
  | succ levels ih =>
    have hd : depth ≤ deepest := by omega
    have hbelow : levels + (depth + 1) = deepest + 1 := by omega
    cases hr : schema.reference with
    | some reference =>
      cases hn : Reference.componentName? reference .schemas with
      | none =>
        rw [flattenFrom_foreign hr hn]
        exact .foreign hd hr hn
      | some name =>
        cases ht : doc.schema? name with
        | none =>
          rw [flattenFrom_missing hr hn ht]
          exact .missing hd hr hn ht
        | some target =>
          have hl : Leads doc schema ⟨name, reference⟩ target := ⟨hr, hn, ht⟩
          rw [flattenFrom_leads hl] at hlossy ⊢
          by_cases he : name ∈ enclosing
          · by_cases hk : target.kind = .object
            · simpa [he, hk] using Outcome.cut hd hl he hk
            · have hloss : lossy := hlossy (.bodyCycleUntyped name) (by simp [he, hk]) rfl
              simpa [he, hk] using Outcome.looped hd hl he hk hloss
          · rw [if_neg (by simpa using he)] at hlossy ⊢
            exact .follow hd hl he (ih hbelow hlossy)
    | none =>
      by_cases ho : schema.kind = .object
      · rw [flattenFrom_object ho] at hlossy ⊢
        simp only [Traced.value_bind, Traced.value_mapM, Traced.value_pure]
        refine .object hd ho (fun property => (flattenFrom doc levels enclosing none property).value)
          fun property hp => ih hbelow fun event he => hlossy event ?_
        simp only [Traced.events_bind, Traced.events_mapM, Traced.events_pure, List.append_nil,
          List.mem_flatMap]
        exact ⟨property, hp, he⟩
      · by_cases ha : schema.kind = .array
        · rw [flattenFrom_array ha] at hlossy ⊢
          cases hi : schema.items with
          | none => exact .itemless hd ha hi
          | some items =>
            simp only [hi, Traced.events_bind, Traced.events_pure, List.append_nil] at hlossy
            exact .array hd ha hi (ih hbelow hlossy)
        · rw [flattenFrom_leaf hr ho ha]
          exact .leaf hd hr ho ha

theorem outcome_flatten {doc : Document} {lossy : Prop} {schema : Schema}
    (hlossy : ∀ event ∈ (flatten doc schema).events, event.isLossy → lossy) :
    Outcome doc lossy 0 [] none schema (flatten doc schema).value := by
  unfold flatten at hlossy ⊢
  exact outcome_flattenFrom (by omega) hlossy

/-- There is one outcome, and it is what flattening gives. -/
theorem outcome_iff {doc : Document} {schema : Schema} {result : Option RequestBody} :
    Outcome doc True 0 [] none schema result ↔ (flatten doc schema).value = result := by
  constructor
  · intro h
    unfold flatten
    exact h.value_eq (by omega)
  · rintro rfl
    exact outcome_flatten fun _ _ _ => trivial

/-- Of a document, only its components are read. -/
theorem flattenFrom_congr {doc doc' : Document} (h : doc.components = doc'.components)
    (levels : Nat) (enclosing : List String) (origin : Option Origin) (schema : Schema) :
    flattenFrom doc levels enclosing origin schema
      = flattenFrom doc' levels enclosing origin schema := by
  have hschema : ∀ name, doc.schema? name = doc'.schema? name := by
    intro name
    rw [Document.schema?, Document.schema?, h]
  induction levels generalizing enclosing origin schema with
  | zero => rw [flattenFrom_zero, flattenFrom_zero]
  | succ levels ih =>
    rw [flattenFrom.eq_def, flattenFrom.eq_def doc']
    simp only [hschema, ih]

theorem flatten_congr (doc doc' : Document) (h : doc.components = doc'.components)
    (schema : Schema) : flatten doc schema = flatten doc' schema :=
  flattenFrom_congr h _ _ _ _

end RequestBody
end OpenApiGen
