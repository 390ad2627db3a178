import OpenApiGen.Proofs.EmittedFiles
import OpenApiGen.Proofs.EntityProperties
import OpenApiGen.Proofs.ModulePartition

/-!
# What ends a run before any file is written

The errors of a document are listed in the order in which they are met: of its modules first, then
of its entities. A run ends with the first one on the list, and comes to an output where the list is
empty. That names collide is not on the list, it is a failure of one item.
-/

namespace OpenApiGen

variable {α β ε : Type}

/-- A result fails with the first of these errors, and does not fail where there is none. -/
def EndsAt (errors : List ε) (x : Except ε α) : Prop :=
  ∀ e, x = .error e ↔ errors.head? = some e

namespace EndsAt

variable {errors after : List ε}

theorem ok (a : α) : EndsAt ([] : List ε) (.ok a) := by
  intro e
  simp

theorem error (e : ε) (rest : List ε) : EndsAt (e :: rest) (.error e : Except ε α) := by
  intro e'
  simp

theorem eq_nil {x : Except ε α} (h : EndsAt errors x) {a : α} (hx : x = .ok a) : errors = [] := by
  have hnone : ∀ e, errors.head? ≠ some e := by
    intro e he
    have hfail := (h e).mpr he
    rw [hx] at hfail
    cases hfail
  exact List.head?_eq_none_iff.mp (Option.eq_none_iff_forall_ne_some.mpr hnone)

theorem exists_eq_ok {x : Except ε α} (h : EndsAt [] x) : ∃ a, x = .ok a := by
  cases x with
  | ok a => exact ⟨a, rfl⟩
  | error e => cases (h e).mp rfl

theorem bind {x : Except ε α} {f : α → Except ε β} (hx : EndsAt errors x)
    (hf : ∀ a, x = .ok a → EndsAt after (f a)) : EndsAt (errors ++ after) (x >>= f) := by
  intro e
  cases hresult : x with
  | ok a =>
    have hnil := hx.eq_nil hresult
    rw [hnil, List.nil_append, ok_bind]
    exact hf a hresult e
  | error first =>
    have hfirst := (hx first).mp hresult
    rw [List.head?_append, hfirst, Option.some_or, error_bind, Except.error.injEq,
      Option.some.injEq]

theorem bind_ok {x : Except ε α} {f : α → Except ε β} (hx : EndsAt errors x)
    (hf : ∀ a, x = .ok a → EndsAt [] (f a)) : EndsAt errors (x >>= f) := by
  have h := hx.bind hf
  rwa [List.append_nil] at h

/-- A list of computations ends where the first one does that fails. -/
theorem mapM {f : α → Except ε β} {errorsOf : α → List ε} (xs : List α)
    (h : ∀ x ∈ xs, EndsAt (errorsOf x) (f x)) : EndsAt (xs.flatMap errorsOf) (xs.mapM f) := by
  induction xs with
  | nil => exact .ok []
  | cons x xs ih =>
    rw [List.mapM_cons, List.flatMap_cons]
    have hrest := ih fun y hy => h y (List.mem_cons_of_mem _ hy)
    exact (h x (List.mem_cons_self ..)).bind fun b _ => hrest.bind_ok fun bs _ => .ok (b :: bs)

/-- So does a pass over a list, where what is carried along has no part in the failures. -/
theorem foldlM {f : β → α → Except ε β} {errorsOf : α → List ε} (xs : List α)
    (h : ∀ b, ∀ x ∈ xs, EndsAt (errorsOf x) (f b x)) (b : β) :
    EndsAt (xs.flatMap errorsOf) (xs.foldlM f b) := by
  induction xs generalizing b with
  | nil => exact .ok b
  | cons x xs ih =>
    rw [List.foldlM_cons, List.flatMap_cons]
    exact (h b x (List.mem_cons_self ..)).bind fun next _ =>
      ih (fun b y hy => h b y (List.mem_cons_of_mem _ hy)) next

theorem exists_error_iff {x : Except ε α} (h : EndsAt errors x) :
    (∃ e, x = .error e) ↔ ∃ e, e ∈ errors := by
  constructor
  · rintro ⟨e, he⟩
    exact ⟨e, List.mem_of_head? ((h e).mp he)⟩
  · rintro ⟨e, he⟩
    cases errors with
    | nil => cases he
    | cons first rest => exact ⟨first, (h first).mpr rfl⟩

end EndsAt

/-! ## Parameters that refer to nothing -/

namespace Parameter

def resolves (doc : Document) (pointer : String) : Bool :=
  ((Reference.componentName? pointer .parameters).bind
    fun name => KeyedList.find? name doc.components.parameters).isSome

def errors (doc : Document) (context : String) : Referable ParameterEntry → List Failure
  | .inline _ => []
  | .reference pointer =>
    if resolves doc pointer then [] else [.unresolvedReference pointer context]

theorem endsAt_resolve (doc : Document) (context : String) (entry : Referable ParameterEntry) :
    EndsAt (errors doc context entry) (resolve doc context entry) := by
  cases entry with
  | inline entry => exact .ok _
  | reference pointer =>
    rw [errors, resolve, resolves]
    cases (Reference.componentName? pointer .parameters).bind
        fun name => KeyedList.find? name doc.components.parameters with
    | none => exact .error _ _
    | some entry => exact .ok _

theorem mem_errors_iff {doc : Document} {context : String} {entry : Referable ParameterEntry}
    {failure : Failure} : failure ∈ errors doc context entry ↔ ∃ pointer,
      entry = .reference pointer ∧ ¬resolves doc pointer ∧
        failure = .unresolvedReference pointer context := by
  cases entry with
  | inline entry => simp [errors]
  | reference pointer =>
    rw [errors]
    split
    · rename_i hr
      simp [hr]
    · rename_i hr
      simp [hr]

end Parameter

namespace Document

variable {doc : Document} {bearer name : String}

/-- The errors of an operation, which stands under its path and its verb. -/
def operationErrors (doc : Document) (operation : String × Verb × Operation) : List Failure :=
  (operation.2.2.parameters.getD []).flatMap
    (Parameter.errors doc (operationContext operation.2.1 operation.1))

/-- Module by module, and in each one in the order of its paths, verbs and parameters. -/
def parameterErrors (doc : Document) : List Failure :=
  doc.modules.flatMap fun name => (doc.operationsOf name).flatMap doc.operationErrors

theorem endsAt_extractMethod (doc : Document) (bearer path : String) (verb : Verb)
    (operation : Operation) :
    EndsAt (doc.operationErrors (path, verb, operation))
      (doc.extractMethod bearer path verb operation).outcome := by
  have hparameters : EndsAt (doc.operationErrors (path, verb, operation))
      (Parameter.resolveAll doc (operationContext verb path) (operation.parameters.getD [])) :=
    .mapM _ fun entry _ => Parameter.endsAt_resolve doc _ entry
  unfold extractMethod
  rw [Attempt.outcome_bind]
  refine hparameters.bind_ok fun parameters _ => ?_
  -- the body is left out where it cannot be found, it never fails
  cases operation.requestBody with
  | none => exact .ok _
  | some body => exact .ok _

theorem endsAt_extractRoute (doc : Document) (bearer : String) (entry : String × PathItem) :
    EndsAt ((entry.2.map fun operation => (entry.1, operation)).flatMap doc.operationErrors)
      (doc.extractRoute bearer entry.1 entry.2).outcome := by
  unfold extractRoute
  rw [Attempt.outcome_bind, Attempt.outcome_mapM, List.flatMap_map]
  have hmethods := EndsAt.mapM entry.2 fun operation _ =>
    doc.endsAt_extractMethod bearer entry.1 operation.1 operation.2
  exact hmethods.bind_ok fun methods _ => .ok _

theorem endsAt_extractModule (doc : Document) (bearer name : String) :
    EndsAt ((doc.operationsOf name).flatMap doc.operationErrors)
      (doc.extractModule bearer name).outcome := by
  unfold extractModule
  rw [Attempt.outcome_bind, Attempt.outcome_mapM, operationsOf, List.flatMap_assoc]
  have hroutes := EndsAt.mapM (doc.pathsOf name) fun entry _ => doc.endsAt_extractRoute bearer entry
  exact hroutes.bind_ok fun routes _ => .ok _

theorem endsAt_extractModules (doc : Document) (bearer : String) :
    EndsAt doc.parameterErrors (doc.extractModules bearer).outcome := by
  have hmodules := EndsAt.mapM doc.modules fun name _ => doc.endsAt_extractModule bearer name
  have houtcome : (doc.extractModules bearer).outcome =
      doc.modules.mapM fun name => (doc.extractModule bearer name).outcome := by
    unfold extractModules
    simp only [Attempt.outcome_bind, Attempt.outcome_lift, Attempt.outcome_report, ok_bind,
      Attempt.outcome_mapM]
    rfl
  rw [houtcome]
  exact hmodules

theorem mem_parameterErrors_iff {failure : Failure} :
    failure ∈ doc.parameterErrors ↔ ∃ entry ∈ doc.paths, (moduleOf? entry.1).isSome ∧
      ∃ operation ∈ entry.2, ∃ pointer,
        Referable.reference pointer ∈ operation.2.parameters.getD [] ∧
        ¬Parameter.resolves doc pointer ∧
        failure = .unresolvedReference pointer (operationContext operation.1 entry.1) := by
  simp only [parameterErrors, operationErrors, operationsOf, pathsOf, List.mem_flatMap,
    List.mem_map, List.mem_filter, decide_eq_true_iff, Parameter.mem_errors_iff]
  constructor
  · rintro ⟨name, -, _, ⟨entry, ⟨hentry, hname⟩, operation, hoperation, rfl⟩, _, hp, pointer, rfl,
      hresolves, hfailure⟩
    exact ⟨entry, hentry, by rw [hname]; rfl, operation, hoperation, pointer, hp, hresolves,
      hfailure⟩
  · rintro ⟨entry, hentry, hmodule, operation, hoperation, pointer, hp, hresolves, hfailure⟩
    obtain ⟨name, hname⟩ := Option.isSome_iff_exists.mp hmodule
    have hname' : name ∈ doc.modules :=
      mem_modules.mpr ⟨entry.1, List.mem_map_of_mem hentry, hname⟩
    exact ⟨name, hname', _, ⟨entry, ⟨hentry, hname⟩, operation, hoperation, rfl⟩, _, hp, pointer,
      rfl, hresolves, hfailure⟩

/-- A parameter of an operation, on a path with a module, is a reference that leads nowhere. -/
def LosesParameter (doc : Document) : Prop :=
  ∃ entry ∈ doc.paths, (moduleOf? entry.1).isSome ∧ ∃ operation ∈ entry.2, ∃ pointer,
    Referable.reference pointer ∈ operation.2.parameters.getD [] ∧ ¬Parameter.resolves doc pointer

theorem exists_mem_parameterErrors_iff :
    (∃ failure, failure ∈ doc.parameterErrors) ↔ doc.LosesParameter := by
  simp only [mem_parameterErrors_iff]
  constructor
  · rintro ⟨_, entry, hentry, hmodule, operation, hoperation, pointer, hp, hresolves, -⟩
    exact ⟨entry, hentry, hmodule, operation, hoperation, pointer, hp, hresolves⟩
  · rintro ⟨entry, hentry, hmodule, operation, hoperation, pointer, hp, hresolves⟩
    exact ⟨_, entry, hentry, hmodule, operation, hoperation, pointer, hp, hresolves, rfl⟩

end Document

/-! ## Properties of entities that refer to nothing -/

namespace Schema

/-- The references that are looked up for a property: its own, or that of the items of an array. -/
def lookedUp (schema : Schema) : List String :=
  schema.reference.toList ++ (schema.element?.bind reference).toList

mutual

/-- The properties inside of a property that stands at this place. -/
def inside (place : String) : Schema → List (String × Schema)
  | schema@{ properties := properties, items := items, .. } =>
    if schema.kind = .array then insideItems place items
    else if schema.kind = .object then places place properties
    else []

def insideItems (place : String) : Option Schema → List (String × Schema)
  | none => []
  | some schema@{ properties := properties, .. } =>
    if schema.kind = .object then places place properties else []

/-- Properties and what is inside of them, each in front of what is inside of it, with the places
where they stand. -/
def places (owner : String) : List (String × Schema) → List (String × Schema)
  | [] => []
  | (name, schema) :: rest =>
    (owner ++ "." ++ name, schema) :: inside (owner ++ "." ++ name) schema ++ places owner rest

end

/-- A property stands at a place: as one of these, or inside of an object or of an array of objects
among them. -/
inductive StandsAt : String → List (String × Schema) → String → Schema → Prop
  | here {owner properties name schema} (h : (name, schema) ∈ properties) :
      StandsAt owner properties (owner ++ "." ++ name) schema
  | inObject {owner properties name schema place inner} (h : (name, schema) ∈ properties)
      (hk : schema.kind = .object)
      (hi : StandsAt (owner ++ "." ++ name) schema.properties place inner) :
      StandsAt owner properties place inner
  | inItems {owner properties name schema items place inner} (h : (name, schema) ∈ properties)
      (hk : schema.kind = .array) (hs : schema.items = some items) (ho : items.kind = .object)
      (hi : StandsAt (owner ++ "." ++ name) items.properties place inner) :
      StandsAt owner properties place inner

theorem StandsAt.of_subset {owner place : String} {properties all : List (String × Schema)}
    {inner : Schema} (h : StandsAt owner properties place inner) (hs : properties ⊆ all) :
    StandsAt owner all place inner := by
  cases h with
  | here h => exact .here (hs h)
  | inObject h hk hi => exact .inObject (hs h) hk hi
  | inItems h hk hitems ho hi => exact .inItems (hs h) hk hitems ho hi

theorem inside_eq (place : String) (schema : Schema) :
    schema.inside place = if schema.kind = .array then insideItems place schema.items
      else if schema.kind = .object then places place schema.properties else [] := by
  cases schema
  rw [inside]

theorem insideItems_some (place : String) (items : Schema) : insideItems place (some items) =
    if items.kind = .object then places place items.properties else [] := by
  cases items
  rw [insideItems]

theorem mem_places_of_mem {owner name : String} {properties : List (String × Schema)}
    {schema : Schema} (h : (name, schema) ∈ properties) :
    ∀ entry ∈ (owner ++ "." ++ name, schema) :: schema.inside (owner ++ "." ++ name),
      entry ∈ places owner properties := by
  induction properties with
  | nil => cases h
  | cons first rest ih =>
    intro entry he
    obtain ⟨other, property⟩ := first
    rw [places]
    rcases List.mem_cons.mp h with h | h
    · cases h
      exact List.mem_append_left _ he
    · exact List.mem_append_right _ (ih h entry he)

theorem mem_places_of_standsAt {owner place : String} {properties : List (String × Schema)}
    {inner : Schema} (h : StandsAt owner properties place inner) :
    (place, inner) ∈ places owner properties := by
  induction h with
  | here h => exact mem_places_of_mem h _ (List.mem_cons_self ..)
  | inObject h hk _ ih =>
    refine mem_places_of_mem h _ (List.mem_cons_of_mem _ ?_)
    rw [inside_eq, hk]
    exact ih
  | inItems h hk hs ho _ ih =>
    refine mem_places_of_mem h _ (List.mem_cons_of_mem _ ?_)
    rw [inside_eq, hk, hs, if_pos rfl, insideItems_some, if_pos ho]
    exact ih

mutual

theorem standsAt_of_mem_inside : (schema : Schema) → {owner name place : String} →
    {inner : Schema} → (place, inner) ∈ schema.inside (owner ++ "." ++ name) →
    StandsAt owner [(name, schema)] place inner
  | { properties := properties, items := items, .. }, owner, name, place, inner, h => by
    rw [inside] at h
    split at h
    · rename_i hk
      obtain ⟨element, hs, ho, hi⟩ := standsAt_of_mem_insideItems items h
      exact .inItems (List.mem_singleton.mpr rfl) hk hs ho hi
    · split at h
      · rename_i hk
        exact .inObject (List.mem_singleton.mpr rfl) hk (standsAt_of_mem_places properties h)
      · cases h

theorem standsAt_of_mem_insideItems : (items : Option Schema) → {owner place : String} →
    {inner : Schema} → (place, inner) ∈ insideItems owner items →
    ∃ element, items = some element ∧ element.kind = .object ∧
      StandsAt owner element.properties place inner
  | none, owner, place, inner, h => by
    rw [insideItems] at h
    cases h
  | some { properties := properties, .. }, owner, place, inner, h => by
    rw [insideItems] at h
    split at h
    · rename_i ho
      exact ⟨_, rfl, ho, standsAt_of_mem_places properties h⟩
    · cases h

theorem standsAt_of_mem_places : (properties : List (String × Schema)) → {owner place : String} →
    {inner : Schema} → (place, inner) ∈ places owner properties →
    StandsAt owner properties place inner
  | [], owner, place, inner, h => by
    rw [places] at h
    cases h
  | (name, schema) :: rest, owner, place, inner, h => by
    rw [places] at h
    rcases List.mem_append.mp h with h | h
    · rcases List.mem_cons.mp h with h | h
      · cases h
        exact .here (List.mem_cons_self ..)
      · have hstands := standsAt_of_mem_inside schema h
        exact hstands.of_subset (by simp)
    · exact (standsAt_of_mem_places rest h).of_subset (List.subset_cons_self ..)

end

/-- The list of places is complete, and there is nothing else on it. -/
theorem mem_places_iff {owner place : String} {properties : List (String × Schema)}
    {inner : Schema} :
    (place, inner) ∈ places owner properties ↔ StandsAt owner properties place inner :=
  ⟨standsAt_of_mem_places properties, mem_places_of_standsAt⟩

end Schema

namespace Entity

variable {doc : Document} {policy : ReferencePolicy}

/-- The errors of the references that are looked up at one place. -/
def referenceErrors (doc : Document) (policy : ReferencePolicy) (place : String)
    (references : List String) : List Failure :=
  match policy with
  | .untyped => []
  | .error => (references.filter fun reference => !resolves doc reference).map
      fun reference => .unresolvedReference reference place

def propertyErrors (doc : Document) (policy : ReferencePolicy) (entry : String × Schema) :
    List Failure :=
  referenceErrors doc policy entry.1 entry.2.lookedUp

/-- The errors of a schema: an entity has a name, and its properties refer to schemas. -/
def schemaErrors (doc : Document) (policy : ReferencePolicy) (entry : String × Schema) :
    List Failure :=
  match stripSuffix? entry.1 with
  | none => []
  | some name =>
    if name.isEmpty then [.invalid ("components.schemas." ++ entry.1) .emptyEntityName]
    else (Schema.places entry.1 entry.2.properties).flatMap (propertyErrors doc policy)

theorem referenceErrors_append (place : String) (references more : List String) :
    referenceErrors doc policy place (references ++ more) =
      referenceErrors doc policy place references ++ referenceErrors doc policy place more := by
  cases policy <;> simp [referenceErrors]

theorem endsAt_followReference (place : String) (otherwise : TypeExpr) (reference : Option String)
    (current : TypeExpr × Option String) :
    EndsAt (referenceErrors doc policy place reference.toList)
      (followReference doc policy place otherwise reference current).outcome := by
  cases reference with
  | none =>
    have hnil : referenceErrors doc policy place [] = [] := by
      cases policy <;> rfl
    rw [Option.toList_none, hnil]
    exact .ok _
  | some reference =>
    have hcheck : EndsAt (referenceErrors doc policy place [reference])
        (checkReference doc policy place reference).outcome := by
      unfold checkReference
      cases hr : resolves doc reference with
      | true => cases policy <;> simpa [referenceErrors, hr] using .ok true
      | false =>
        cases policy with
        | error => simpa [referenceErrors, hr] using .error _ _
        | untyped => exact .ok false
    unfold followReference
    rw [Attempt.outcome_bind]
    refine hcheck.bind_ok fun leads _ => ?_
    cases leads <;> exact .ok _

theorem endsAt_followAll (place : String) (schema : Schema) :
    EndsAt (propertyErrors doc policy (place, schema))
      (followAll doc policy place schema).outcome := by
  rw [propertyErrors, Schema.lookedUp, referenceErrors_append, followAll, Attempt.outcome_bind]
  exact (endsAt_followReference place _ _ _).bind fun found _ => endsAt_followReference place _ _ _

mutual

/-- A property fails with an error of its own references, and else with one inside of it. -/
theorem endsAt_flattenProperty : (schema : Schema) → (name place : String) → (required : Bool) →
    EndsAt (propertyErrors doc policy (place, schema)
        ++ (schema.inside place).flatMap (propertyErrors doc policy))
      (flattenProperty doc policy name place required schema).outcome
  | { properties := properties, items := items, required := names, .. },
    name, place, required => by
    rw [flattenProperty_eq, Attempt.outcome_bind]
    refine (endsAt_followAll place _).bind fun found _ => ?_
    rw [Attempt.outcome_bind]
    refine EndsAt.bind_ok ?_ fun nested _ => .ok _
    rw [flattenNested, Schema.inside]
    split
    · exact endsAt_flattenItems items place
    · split
      · exact endsAt_flattenAll properties place names
      · exact .ok []

theorem endsAt_flattenItems : (items : Option Schema) → (place : String) →
    EndsAt ((Schema.insideItems place items).flatMap (propertyErrors doc policy))
      (flattenItems doc policy place items).outcome
  | none, place => by
    rw [Schema.insideItems, flattenItems]
    exact .ok []
  | some { properties := properties, required := names, .. }, place => by
    rw [Schema.insideItems, flattenItems]
    split
    · exact endsAt_flattenAll properties place names
    · exact .ok []

theorem endsAt_flattenAll : (properties : List (String × Schema)) → (owner : String) →
    (required : List String) →
    EndsAt ((Schema.places owner properties).flatMap (propertyErrors doc policy))
      (flattenAll doc policy owner required properties).outcome
  | [], owner, required => by
    rw [Schema.places, flattenAll]
    exact .ok []
  | (name, schema) :: rest, owner, required => by
    rw [Schema.places, flattenAll, List.flatMap_append, List.flatMap_cons, Attempt.outcome_bind]
    refine (endsAt_flattenProperty schema name _ _).bind fun property _ => ?_
    rw [Attempt.outcome_bind]
    exact (endsAt_flattenAll rest owner required).bind_ok fun properties _ => .ok _

end

theorem endsAt_ofSchemas (schemas : List (String × Schema)) :
    EndsAt (schemas.flatMap (schemaErrors doc policy)) (ofSchemas doc policy schemas).outcome := by
  induction schemas with
  | nil => exact .ok []
  | cons entry schemas ih =>
    obtain ⟨schemaName, schema⟩ := entry
    rw [List.flatMap_cons, ofSchemas, schemaErrors]
    dsimp only
    cases stripSuffix? schemaName with
    | none => exact ih
    | some name =>
      dsimp only
      split
      · exact .error _ _
      · rw [Attempt.outcome_bind]
        have hproperties : EndsAt ((Schema.places schemaName schema.properties).flatMap
            (propertyErrors doc policy)) (flattenSchema doc policy schemaName schema).outcome :=
          endsAt_flattenAll schema.properties schemaName schema.required
        refine hproperties.bind fun properties _ => ?_
        rw [Attempt.outcome_bind]
        exact ih.bind_ok fun rest _ => .ok _

/-- Schema by schema, and in each one in the order of the properties, from the outside in. -/
def errors (doc : Document) (policy : ReferencePolicy) : List Failure :=
  doc.components.schemas.flatMap (schemaErrors doc policy)

theorem endsAt_extract (doc : Document) (policy : ReferencePolicy) :
    EndsAt (errors doc policy) (extract doc policy).outcome := by
  rw [extract, Attempt.outcome_bind]
  refine (endsAt_ofSchemas doc.components.schemas).bind_ok fun entities _ => ?_
  rw [Attempt.outcome_bind, Attempt.outcome_report, ok_bind]
  exact .ok entities

theorem stripSuffix?_eq_empty_iff {name : String} :
    stripSuffix? name = some "" ↔ name = suffix := by
  rw [stripSuffix?_eq_some_iff, String.empty_append]

theorem mem_referenceErrors_iff {place : String} {references : List String} {failure : Failure} :
    failure ∈ referenceErrors doc policy place references ↔ policy = .error ∧
      ∃ reference ∈ references, ¬resolves doc reference ∧
        failure = .unresolvedReference reference place := by
  cases policy with
  | untyped => simp [referenceErrors]
  | error =>
    simp only [referenceErrors, List.mem_map, List.mem_filter, true_and]
    constructor
    · rintro ⟨reference, ⟨hmem, hlost⟩, rfl⟩
      exact ⟨reference, hmem, by simpa using hlost, rfl⟩
    · rintro ⟨reference, hmem, hlost, rfl⟩
      exact ⟨reference, ⟨hmem, by simpa using hlost⟩, rfl⟩

theorem mem_schemaErrors_iff {entry : String × Schema} {failure : Failure} :
    failure ∈ schemaErrors doc policy entry ↔
      (entry.1 = suffix ∧ failure = .invalid ("components.schemas." ++ suffix) .emptyEntityName) ∨
      (policy = .error ∧ entry.1 ≠ suffix ∧ (stripSuffix? entry.1).isSome ∧ ∃ place property,
        Schema.StandsAt entry.1 entry.2.properties place property ∧
        ∃ reference ∈ property.lookedUp, ¬resolves doc reference ∧
          failure = .unresolvedReference reference place) := by
  have hsuffix : entry.1 = suffix ↔ stripSuffix? entry.1 = some "" :=
    stripSuffix?_eq_empty_iff.symm
  rw [schemaErrors]
  cases hname : stripSuffix? entry.1 with
  | none => simp [hsuffix, hname]
  | some name =>
    by_cases hempty : name = ""
    · have hentry : entry.1 = suffix := hsuffix.mpr (by rw [hname, hempty])
      simp [hentry, hempty]
    · have hentry : entry.1 ≠ suffix := by
        rw [ne_eq, hsuffix, hname, Option.some.injEq]
        exact hempty
      have hfalse : name.isEmpty = false := by simpa using hempty
      simp only [hfalse, Bool.false_eq_true, if_false, hentry, false_and, false_or, ne_eq,
        not_false_eq_true, Option.isSome_some, true_and, List.mem_flatMap, Prod.exists,
        Schema.mem_places_iff, propertyErrors, mem_referenceErrors_iff]
      tauto

/-- What is wrong with the schemas that are entities: one of them has no name, or a reference that
is looked up for a property leads nowhere. -/
theorem mem_errors_iff {failure : Failure} : failure ∈ errors doc policy ↔
    (suffix ∈ KeyedList.keys doc.components.schemas ∧
      failure = .invalid ("components.schemas." ++ suffix) .emptyEntityName) ∨
    (policy = .error ∧ ∃ entry ∈ doc.components.schemas, entry.1 ≠ suffix ∧
      (stripSuffix? entry.1).isSome ∧ ∃ place property,
        Schema.StandsAt entry.1 entry.2.properties place property ∧
        ∃ reference ∈ property.lookedUp, ¬resolves doc reference ∧
          failure = .unresolvedReference reference place) := by
  simp only [errors, List.mem_flatMap, mem_schemaErrors_iff]
  constructor
  · rintro ⟨entry, hentry, ⟨hname, rfl⟩ | ⟨hpolicy, hlost⟩⟩
    · exact .inl ⟨hname ▸ List.mem_map_of_mem hentry, rfl⟩
    · exact .inr ⟨hpolicy, entry, hentry, hlost⟩
  · rintro (⟨hname, rfl⟩ | ⟨hpolicy, entry, hentry, hlost⟩)
    · obtain ⟨entry, hentry, hname⟩ := List.mem_map.mp hname
      exact ⟨entry, hentry, .inl ⟨hname, rfl⟩⟩
    · exact ⟨entry, hentry, .inr ⟨hpolicy, hlost⟩⟩

/-- A reference that is looked up for a property, at some place in an entity, leads nowhere. -/
def LosesReference (doc : Document) : Prop :=
  ∃ entry ∈ doc.components.schemas, (stripSuffix? entry.1).isSome ∧ ∃ place property,
    Schema.StandsAt entry.1 entry.2.properties place property ∧
    ∃ reference ∈ property.lookedUp, ¬resolves doc reference

theorem exists_mem_errors_iff : (∃ failure, failure ∈ errors doc policy) ↔
    suffix ∈ KeyedList.keys doc.components.schemas ∨ policy = .error ∧ LosesReference doc := by
  simp only [mem_errors_iff]
  constructor
  · rintro ⟨_, ⟨hname, -⟩ | ⟨hpolicy, entry, hentry, -, hentity, place, property, hstands,
      reference, hlooked, hlost, -⟩⟩
    · exact .inl hname
    · exact .inr ⟨hpolicy, entry, hentry, hentity, place, property, hstands, reference, hlooked,
        hlost⟩
  · rintro (hname | ⟨hpolicy, entry, hentry, hentity, place, property, hstands, reference, hlooked,
      hlost⟩)
    · exact ⟨_, .inl ⟨hname, rfl⟩⟩
    · -- a schema called like the suffix alone is an error before any of its properties is
      by_cases hname : entry.1 = suffix
      · exact ⟨_, .inl ⟨hname ▸ List.mem_map_of_mem hentry, rfl⟩⟩
      · exact ⟨_, .inr ⟨hpolicy, entry, hentry, hname, hentity, place, property, hstands, reference,
          hlooked, hlost, rfl⟩⟩

end Entity

namespace Generation

variable {options : Options} {doc : Document}

/-- All errors that a run over a document can meet: those of the modules, then those of the
entities, each if any of their files are asked for. -/
def documentErrors (options : Options) (doc : Document) : List Failure :=
  (if options.artifacts.hasModuleFiles then doc.parameterErrors else [])
    ++ if options.artifacts.entities then Entity.errors doc options.unresolvedEntityReferences
      else []

theorem endsAt_run (options : Options) (doc : Document) :
    EndsAt (documentErrors options doc) (run options doc).outcome := by
  rw [run_eq_bind, documentErrors, Attempt.outcome_bind]
  refine EndsAt.bind ?_ fun modules _ => ?_
  · split
    · exact doc.endsAt_extractModules options.bearerScheme
    · exact .ok []
  · rw [Attempt.outcome_bind]
    refine EndsAt.bind_ok ?_ fun entities _ => .ok _
    split
    · exact Entity.endsAt_extract doc options.unresolvedEntityReferences
    · exact .ok []

theorem mem_documentErrors_iff {failure : Failure} : failure ∈ documentErrors options doc ↔
    (options.artifacts.hasModuleFiles ∧ failure ∈ doc.parameterErrors) ∨
      (options.artifacts.entities ∧
        failure ∈ Entity.errors doc options.unresolvedEntityReferences) := by
  rw [documentErrors, List.mem_append]
  cases options.artifacts.hasModuleFiles <;> cases options.artifacts.entities <;> simp

/-- A run has no output exactly where the document is at fault: where files of modules are asked for
and it loses a parameter, or where entities are asked for and a schema is called like the suffix
alone or, unless that is tolerated, some entity loses a reference. The run then ends with the first
of the errors of the document, and never because names collide. -/
theorem run_ends_at_documentErrors (options : Options) (doc : Document) :
    ((∃ failure, (run options doc).outcome = .error failure) ↔
      (options.artifacts.hasModuleFiles ∧ doc.LosesParameter) ∨
      (options.artifacts.entities ∧ ("Entity" ∈ KeyedList.keys doc.components.schemas ∨
        options.unresolvedEntityReferences = .error ∧ Entity.LosesReference doc))) ∧
    (∀ failure, (run options doc).outcome = .error failure ↔
      (documentErrors options doc).head? = some failure) ∧
    ∀ name first second,
      (run options doc).outcome ≠ .error (.namingCollision name first second) := by
  have hends := endsAt_run options doc
  refine ⟨?_, hends, fun name first second hcollision => ?_⟩
  · rw [hends.exists_error_iff]
    simp only [mem_documentErrors_iff, exists_or, exists_and_left,
      Document.exists_mem_parameterErrors_iff, Entity.exists_mem_errors_iff]
    rfl
  · have hmem := List.mem_of_head? ((hends _).mp hcollision)
    simp [mem_documentErrors_iff, Document.mem_parameterErrors_iff, Entity.mem_errors_iff] at hmem

def readWith (pointer : String) : PathItem :=
  [(.get, ⟨none, none, some [.reference pointer], none, none⟩)]

/-- The paths of two modules in turn lose their parameters, and an entity has no name. -/
def lostParameters : Document where
  openapi := "3.0.0"
  info := ⟨"Lost", "1", none⟩
  paths := [("/users", readWith "#/first"), ("/orders", readWith "#/last"),
    ("/users/all", readWith "#/second")]
  components := { schemas := [("Entity", {})] }

example : documentErrors {} lostParameters =
    [.unresolvedReference "#/first" "GET /users", .unresolvedReference "#/second" "GET /users/all",
      .unresolvedReference "#/last" "GET /orders",
      .invalid "components.schemas.Entity" .emptyEntityName] := by
  decide +kernel

end Generation
end OpenApiGen
