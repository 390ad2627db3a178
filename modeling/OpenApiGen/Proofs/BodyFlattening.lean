import OpenApiGen.RequestBody
import OpenApiGen.Proofs.Runs

/-! # The rules by which schemas become bodies when nothing is wrong -/

namespace OpenApiGen

theorem Schema.kind_of_reference {schema : Schema} {reference : String}
    (h : schema.reference = some reference) : schema.kind = .reference := by
  simp [Schema.kind, h]

theorem Schema.reference_eq_none {schema : Schema} (h : schema.kind ≠ .reference) :
    schema.reference = none := by
  cases hr : schema.reference with
  | none => rfl
  | some reference => exact absurd (kind_of_reference hr) h

theorem SchemaKind.ofTypeName_ne_reference (name : String) : ofTypeName name ≠ .reference := by
  unfold ofTypeName
  split <;> decide

theorem TypeKeyword.kind_ne_reference (type : TypeKeyword) : type.kind ≠ .reference := by
  cases type with
  | single name => exact SchemaKind.ofTypeName_ne_reference name
  | several names =>
    simp only [kind]
    split
    · exact SchemaKind.ofTypeName_ne_reference _
    · simp

theorem Schema.kind_ne_reference {schema : Schema} (h : schema.reference = none) :
    schema.kind ≠ .reference := by
  unfold Schema.kind
  simp only [h, Option.isSome_none, Bool.false_eq_true, if_false]
  split
  · exact TypeKeyword.kind_ne_reference _
  · split <;> simp

namespace RequestBody

/-- The schema behind a reference to a component, and the name it has there. -/
def Leads (doc : Document) (schema : Schema) (origin : Origin) (target : Schema) : Prop :=
  schema.reference = some origin.reference ∧
    Reference.componentName? origin.reference .schemas = some origin.name ∧
      doc.schema? origin.name = some target

theorem Leads.kind {doc : Document} {schema target : Schema} {origin : Origin}
    (h : Leads doc schema origin target) : schema.kind = .reference :=
  Schema.kind_of_reference h.1

theorem Leads.unique {doc : Document} {schema target target' : Schema} {origin origin' : Origin}
    (h : Leads doc schema origin target) (h' : Leads doc schema origin' target') :
    origin = origin' ∧ target = target' := by
  obtain ⟨hr, hn, ht⟩ := h
  obtain ⟨hr', hn', ht'⟩ := h'
  have hreference := Option.some.inj (hr.symm.trans hr')
  rw [hreference] at hn
  have hname := Option.some.inj (hn.symm.trans hn')
  rw [hname] at ht
  refine ⟨?_, Option.some.inj (ht.symm.trans ht')⟩
  cases origin
  cases origin'
  cases hreference
  cases hname
  rfl

/-- A schema becomes a body inside of schemas of these names, having been reached by this
reference. Nothing here counts levels. -/
inductive Flattens (doc : Document) :
    List String → Option Origin → Schema → RequestBody → Prop
  | leaf {enclosing origin schema} (hr : schema.reference = none) (ho : schema.kind ≠ .object)
      (ha : schema.kind ≠ .array) : Flattens doc enclosing origin schema (ofLeaf schema)
  | itemless {enclosing origin schema} (hk : schema.kind = .array) (hi : schema.items = none) :
      Flattens doc enclosing origin schema (.array (untyped none))
  | array {enclosing origin schema items item} (hk : schema.kind = .array)
      (hi : schema.items = some items) (h : Flattens doc enclosing none items item) :
      Flattens doc enclosing origin schema (.array item)
  | object {enclosing origin schema} (hk : schema.kind = .object) (bodyOf : Schema → RequestBody)
      (h : ∀ property ∈ schema.properties,
        Flattens doc enclosing none property.2 (bodyOf property.2)) :
      Flattens doc enclosing origin schema (.object origin schema.required
        (schema.properties.map fun property => (property.1, bodyOf property.2)))
  | follow {enclosing origin schema next target body} (hl : Leads doc schema next target)
      (hn : next.name ∉ enclosing)
      (h : Flattens doc (next.name :: enclosing) (some next) target body) :
      Flattens doc enclosing origin schema body
  | cut {enclosing origin schema next target} (hl : Leads doc schema next target)
      (hn : next.name ∈ enclosing) (hk : target.kind = .object) :
      Flattens doc enclosing origin schema (.cut next.name schema.isNullable schema.description)

section
variable {doc : Document} {levels : Nat} {enclosing : List String} {origin : Option Origin}
  {schema : Schema}

/-- A run without warnings finds a component behind every reference. -/
theorem leads_of_quiet {reference : String} (hr : schema.reference = some reference)
    (hq : (flattenFrom doc (levels + 1) enclosing origin schema).Quiet) :
    ∃ name target, Leads doc schema ⟨name, reference⟩ target := by
  rw [flattenFrom.eq_def] at hq
  simp only [hr] at hq
  cases hn : Reference.componentName? reference .schemas with
  | none => simp [hn, Event.level] at hq
  | some name =>
    cases ht : doc.schema? name with
    | none => simp [hn, ht, Event.level] at hq
    | some target => exact ⟨name, target, hr, hn, ht⟩

theorem flattenFrom_leads {next : Origin} {target : Schema} (hl : Leads doc schema next target) :
    flattenFrom doc (levels + 1) enclosing origin schema =
      if enclosing.contains next.name then
        if target.kind = .object then do
          Traced.report (.bodyCycleCut next.name)
          return some (.cut next.name schema.isNullable schema.description)
        else do
          Traced.report (.bodyCycleUntyped next.name)
          return some (untyped schema.description)
      else flattenFrom doc levels (next.name :: enclosing) (some next) target := by
  obtain ⟨hr, hn, ht⟩ := hl
  rw [flattenFrom.eq_def]
  simp only [hr, hn, ht]

theorem flattenFrom_object (hk : schema.kind = .object) :
    flattenFrom doc (levels + 1) enclosing origin schema = do
      let properties ← schema.properties.mapM fun (name, property) => do
        let body ← flattenFrom doc levels enclosing none property
        return (name, body.getD (untyped property.description))
      return some (.object origin schema.required properties) := by
  have hr : schema.reference = none := Schema.reference_eq_none (by simp [hk])
  rw [flattenFrom.eq_def]
  simp only [hr, hk]

theorem flattenFrom_array (hk : schema.kind = .array) :
    flattenFrom doc (levels + 1) enclosing origin schema =
      match schema.items with
      | none => return some (.array (untyped none))
      | some items => do
        let item ← flattenFrom doc levels enclosing none items
        return some (.array (item.getD (untyped none))) := by
  have hr : schema.reference = none := Schema.reference_eq_none (by simp [hk])
  rw [flattenFrom.eq_def]
  cases schema.items <;> simp only [hr, hk]

theorem flattenFrom_leaf (hr : schema.reference = none) (ho : schema.kind ≠ .object)
    (ha : schema.kind ≠ .array) :
    flattenFrom doc (levels + 1) enclosing origin schema = return some (ofLeaf schema) := by
  rw [flattenFrom.eq_def]
  simp only [hr]

end

/-- Without warnings there is a body, and the rules give it: by the levels that are left. -/
theorem flattens_of_quiet {doc : Document} {levels : Nat} {enclosing : List String}
    {origin : Option Origin} {schema : Schema}
    (hq : (flattenFrom doc levels enclosing origin schema).Quiet) :
    ∃ body, (flattenFrom doc levels enclosing origin schema).value = some body ∧
      Flattens doc enclosing origin schema body := by
  induction levels generalizing enclosing origin schema with
  | zero =>
    rw [flattenFrom.eq_def] at hq
    simp [Event.level] at hq
  | succ levels ih =>
    cases hr : schema.reference with
    | some reference =>
      obtain ⟨name, target, hl⟩ := leads_of_quiet hr hq
      rw [flattenFrom_leads hl] at hq ⊢
      by_cases hn : name ∈ enclosing
      · by_cases hk : target.kind = .object
        · refine ⟨.cut name schema.isNullable schema.description, ?_, .cut hl hn hk⟩
          simp [hn, hk]
        · simp [hn, hk, Event.level] at hq
      · simp only [List.contains_iff_mem, hn, if_false] at hq ⊢
        obtain ⟨body, hv, hf⟩ := ih hq
        exact ⟨body, hv, .follow hl hn hf⟩
    | none =>
      by_cases ho : schema.kind = .object
      · rw [flattenFrom_object ho] at hq ⊢
        simp at hq
        refine ⟨_, rfl, ?_⟩
        simp only [Traced.value_mapM, Traced.value_bind, Traced.value_pure]
        refine .object ho (fun property => (flattenFrom doc levels enclosing none property).value.getD
          (untyped property.description)) fun property hp => ?_
        obtain ⟨body, hv, hf⟩ := ih (hq _ _ hp)
        rw [hv]
        exact hf
      · by_cases ha : schema.kind = .array
        · rw [flattenFrom_array ha] at hq ⊢
          cases hi : schema.items with
          | none => exact ⟨_, rfl, .itemless ha hi⟩
          | some items =>
            simp [hi] at hq
            obtain ⟨body, hv, hf⟩ := ih hq
            refine ⟨_, rfl, ?_⟩
            rw [hv]
            exact .array ha hi hf
        · rw [flattenFrom_leaf hr ho ha]
          exact ⟨ofLeaf schema, rfl, .leaf hr ho ha⟩

end RequestBody
end OpenApiGen
