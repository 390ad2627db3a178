import OpenApiGen.Proofs.BodyParts
import OpenApiGen.Proofs.BodyTypes

/-!
# Which schemas take part in the declarations of a service

A named object is opened where it is come to and closed once its properties have their types, unless
an object of the same name was closed before. The identifier is looked up at the opening and taken at
the closing, so that objects inside may take it in between.
-/

namespace OpenApiGen

inductive Visit
  | opened (schema : String)
  | closed (schema : String)
deriving DecidableEq, Repr

namespace RequestBody

mutual

/-- The visits up to the end of a body, last one first. -/
def visit (history : List Visit) : RequestBody → List Visit
  | .leaf .. | .cut .. => history
  | .array item => visit history item
  | .object none _ properties => visitAll history properties
  | .object (some origin) _ properties =>
    if .closed origin.name ∈ history then .opened origin.name :: history
    else .closed origin.name :: visitAll (.opened origin.name :: history) properties

def visitAll (history : List Visit) : List (String × RequestBody) → List Visit
  | [] => history
  | (_, body) :: rest => visitAll (visit history body) rest

end

end RequestBody

namespace Visit

/-- The schema that was closed last under an identifier. -/
def holder? (identifier : String) : List Visit → Option String
  | [] => none
  | .opened _ :: earlier => holder? identifier earlier
  | .closed schema :: earlier =>
    if Naming.typeIdentifier schema = identifier then some schema else holder? identifier earlier

/-- Whenever an object is opened, its identifier is free or was taken last by its own schema. -/
def Undisputed : List Visit → Prop
  | [] => True
  | .opened schema :: earlier =>
    (∀ holder, holder? (Naming.typeIdentifier schema) earlier = some holder → holder = schema) ∧
      Undisputed earlier
  | .closed _ :: earlier => Undisputed earlier

theorem identifier_of_holder? {identifier schema : String} {history : List Visit}
    (h : holder? identifier history = some schema) :
    .closed schema ∈ history ∧ Naming.typeIdentifier schema = identifier := by
  induction history with
  | nil => simp [holder?] at h
  | cons v earlier ih =>
    cases v with
    | opened s =>
      obtain ⟨hm, hi⟩ := ih h
      exact ⟨List.mem_cons_of_mem _ hm, hi⟩
    | closed s =>
      simp only [holder?] at h
      split at h
      · rename_i hs
        cases h
        exact ⟨List.mem_cons_self .., hs⟩
      · obtain ⟨hm, hi⟩ := ih h
        exact ⟨List.mem_cons_of_mem _ hm, hi⟩

theorem holder?_isSome_of_closed {schema : String} {history : List Visit}
    (h : .closed schema ∈ history) :
    ∃ holder, holder? (Naming.typeIdentifier schema) history = some holder := by
  induction history with
  | nil => simp at h
  | cons v earlier ih =>
    cases v with
    | opened s =>
      have he : .closed schema ∈ earlier := by simpa using h
      exact ih he
    | closed s =>
      by_cases hs : Naming.typeIdentifier s = Naming.typeIdentifier schema
      · exact ⟨s, by simp [holder?, hs]⟩
      · have he : .closed schema ∈ earlier := by
          rcases List.mem_cons.mp h with h | h
          · cases h
            exact absurd rfl hs
          · exact h
        obtain ⟨holder, hh⟩ := ih he
        exact ⟨holder, by simp [holder?, hs, hh]⟩

theorem Undisputed.of_append {later earlier : List Visit} (h : Undisputed (later ++ earlier)) :
    Undisputed earlier := by
  induction later with
  | nil => exact h
  | cons v later ih =>
    cases v with
    | opened s => exact ih h.2
    | closed s => exact ih h

end Visit

namespace RequestBody

mutual

theorem visit_eq_append (history : List Visit) :
    (body : RequestBody) → ∃ later, visit history body = later ++ history
  | .leaf .. => ⟨[], by rw [visit]; rfl⟩
  | .cut .. => ⟨[], by rw [visit]; rfl⟩
  | .array item => by
    rw [visit]
    exact visit_eq_append history item
  | .object none _ properties => by
    rw [visit]
    exact visitAll_eq_append history properties
  | .object (some origin) _ properties => by
    rw [visit]
    split
    · exact ⟨[.opened origin.name], rfl⟩
    · obtain ⟨later, hl⟩ := visitAll_eq_append (.opened origin.name :: history) properties
      exact ⟨.closed origin.name :: later ++ [.opened origin.name], by simp [hl]⟩

theorem visitAll_eq_append (history : List Visit) :
    (properties : List (String × RequestBody)) →
      ∃ later, visitAll history properties = later ++ history
  | [] => ⟨[], by rw [visitAll]; rfl⟩
  | (_, body) :: rest => by
    obtain ⟨first, hf⟩ := visit_eq_append history body
    obtain ⟨later, hl⟩ := visitAll_eq_append (visit history body) rest
    rw [visitAll]
    exact ⟨later ++ first, by rw [hl, hf, List.append_assoc]⟩

end

theorem undisputed_of_visitAll {history : List Visit} {properties : List (String × RequestBody)}
    (h : Visit.Undisputed (visitAll history properties)) : Visit.Undisputed history := by
  obtain ⟨later, hl⟩ := visitAll_eq_append history properties
  exact Visit.Undisputed.of_append (hl ▸ h)

end RequestBody

/-- Under each identifier stands the schema that was closed under it last. -/
def Holds (declarations : List Declaration) (history : List Visit) : Prop :=
  ∀ identifier, (declarations.find? (·.identifier == identifier)).map Declaration.schema
    = Visit.holder? identifier history

/-- A run ends well where the history is undisputed, with the declarations of that history, and
fails where it is not. -/
def Settles {α : Type} (result : Except Failure (α × List Declaration)) (history : List Visit) :
    Prop :=
  match result with
  | .ok (_, declarations) => Holds declarations history ∧ Visit.Undisputed history
  | .error _ => ¬Visit.Undisputed history

theorem Holds.opened {declarations : List Declaration} {history : List Visit}
    (h : Holds declarations history) (schema : String) :
    Holds declarations (.opened schema :: history) := h

theorem Holds.closed {declarations : List Declaration} {history : List Visit}
    (h : Holds declarations history) (schema : String) (type : TypeExpr) :
    Holds (Declaration.put ⟨Naming.typeIdentifier schema, schema, type⟩ declarations)
      (.closed schema :: history) := by
  intro identifier
  rw [Declaration.find?_put]
  simp only [Visit.holder?]
  split
  · rfl
  · exact h identifier

theorem Settles.map {α β : Type} {result : Except Failure (α × List Declaration)}
    {history : List Visit} (h : Settles result history) (f : α → β) :
    Settles ((fun (a, declarations) => (f a, declarations)) <$> result) history := by
  cases result <;> exact h

namespace RequestBody

mutual

theorem type_settles {declarations : List Declaration} {history : List Visit}
    (hd : Holds declarations history) (hu : Visit.Undisputed history) :
    (body : RequestBody) → Settles (body.type.run declarations) (visit history body)
  | .leaf .. => by
    rw [run_type_leaf, visit]
    exact ⟨hd, hu⟩
  | .cut .. => by
    rw [run_type_cut, visit]
    exact ⟨hd, hu⟩
  | .array item => by
    rw [run_type_array, visit]
    exact (type_settles hd hu item).map TypeExpr.array
  | .object none required properties => by
    rw [run_type_inline, visit]
    exact (fieldTypes_settles hd hu required properties).map recordType
  | .object (some origin) required properties => by
    rw [run_type_named, visit]
    have hheld := hd (Naming.typeIdentifier origin.name)
    cases hf : declarations.find? (·.identifier == Naming.typeIdentifier origin.name) with
    | none =>
      rw [hf, Option.map_none] at hheld
      have hfresh : Visit.closed origin.name ∉ history := by
        intro hc
        obtain ⟨holder, hh⟩ := Visit.holder?_isSome_of_closed hc
        rw [← hheld] at hh
        cases hh
      have hopen : Visit.Undisputed (.opened origin.name :: history) := by
        refine ⟨fun holder hh => ?_, hu⟩
        rw [← hheld] at hh
        cases hh
      rw [if_neg hfresh]
      have hfields := fieldTypes_settles (hd.opened origin.name) hopen required properties
      cases hr : (fieldTypes required properties).run declarations with
      | error failure =>
        rw [hr] at hfields
        exact hfields
      | ok result =>
        rw [hr] at hfields
        exact ⟨hfields.1.closed origin.name _, hfields.2⟩
    | some d =>
      rw [hf, Option.map_some] at hheld
      obtain ⟨hclosed, -⟩ := Visit.identifier_of_holder? hheld.symm
      by_cases hs : d.schema = origin.name
      · rw [hs] at hclosed hheld
        simp only [if_pos hs, if_pos hclosed]
        refine ⟨hd.opened origin.name, fun holder hh => ?_, hu⟩
        rw [← hheld] at hh
        exact (Option.some.inj hh).symm
      · have hdisputed : ¬Visit.Undisputed (.opened origin.name :: history) :=
          fun h => hs (h.1 d.schema hheld.symm)
        simp only [if_neg hs]
        split
        · exact hdisputed
        · exact fun h => hdisputed (undisputed_of_visitAll h)

theorem fieldTypes_settles {declarations : List Declaration} {history : List Visit}
    (hd : Holds declarations history) (hu : Visit.Undisputed history) (required : List String) :
    (properties : List (String × RequestBody)) →
      Settles ((fieldTypes required properties).run declarations) (visitAll history properties)
  | [] => by
    rw [run_fieldTypes_nil, visitAll]
    exact ⟨hd, hu⟩
  | (name, body) :: rest => by
    rw [run_fieldTypes_cons, visitAll]
    have hfirst := type_settles hd hu body
    cases hr : body.type.run declarations with
    | error failure =>
      rw [hr] at hfirst
      exact fun h => hfirst (undisputed_of_visitAll h)
    | ok result =>
      rw [hr] at hfirst
      exact (fieldTypes_settles hfirst.1 hfirst.2 required rest).map _

end

end RequestBody

/-- `active` are the schemas of the enclosing objects, the last one first. Schemas that share an
identifier are related by `nests`, one way or the other. -/
structure Nested (nests : String → String → Prop) (active : List String) (history : List Visit) :
    Prop where
  finished : ∀ s, .opened s ∈ history → .closed s ∈ history ∨ s ∈ active
  started : ∀ s, .closed s ∈ history → .opened s ∈ history
  shared : ∀ s t, .opened s ∈ history → .opened t ∈ history → s ≠ t →
    Naming.typeIdentifier s = Naming.typeIdentifier t → nests s t ∨ nests t s

namespace Nested

variable {nests : String → String → Prop} {active : List String} {history : List Visit}

/-- An object that is opened meets its identifier either under its own schema, or only with the
enclosing objects. -/
theorem shared_opened (h : Nested nests active history) {schema : String}
    (hu : Visit.Undisputed (.opened schema :: history)) (hn : ∀ s ∈ active, nests s schema)
    {t : String} (ht : .opened t ∈ history) (hne : t ≠ schema)
    (hi : Naming.typeIdentifier t = Naming.typeIdentifier schema) :
    nests t schema ∨ nests schema t := by
  rcases h.finished t ht with hc | ha
  · obtain ⟨holder, hh⟩ := Visit.holder?_isSome_of_closed hc
    rw [hi] at hh
    obtain ⟨hclosed, -⟩ := Visit.identifier_of_holder? hh
    rw [hu.1 holder hh] at hclosed
    exact h.shared t schema ht (h.started schema hclosed) hne hi
  · exact .inl (hn t ha)

theorem opened (h : Nested nests active history) {schema : String}
    (hu : Visit.Undisputed (.opened schema :: history)) (hn : ∀ s ∈ active, nests s schema) :
    Nested nests (schema :: active) (.opened schema :: history) where
  finished s hs := by
    rcases List.mem_cons.mp hs with hs | hs
    · cases hs
      exact .inr (List.mem_cons_self ..)
    · rcases h.finished s hs with hc | ha
      · exact .inl (List.mem_cons_of_mem _ hc)
      · exact .inr (List.mem_cons_of_mem _ ha)
  started s hs := by
    have hc : .closed s ∈ history := by simpa using hs
    exact List.mem_cons_of_mem _ (h.started s hc)
  shared s t hs ht hne hi := by
    rcases List.mem_cons.mp hs with hs | hs <;> rcases List.mem_cons.mp ht with ht | ht
    · cases hs
      cases ht
      exact absurd rfl hne
    · cases hs
      exact (h.shared_opened hu hn ht (Ne.symm hne) hi.symm).symm
    · cases ht
      exact h.shared_opened hu hn hs hne hi
    · exact h.shared s t hs ht hne hi

theorem closed {schema : String} (h : Nested nests (schema :: active) history)
    (hs : .opened schema ∈ history) : Nested nests active (.closed schema :: history) where
  finished s hm := by
    have ho : .opened s ∈ history := by simpa using hm
    rcases h.finished s ho with hc | ha
    · exact .inl (List.mem_cons_of_mem _ hc)
    · rcases List.mem_cons.mp ha with rfl | ha
      · exact .inl (List.mem_cons_self ..)
      · exact .inr ha
  started s hm := by
    rcases List.mem_cons.mp hm with hm | hm
    · cases hm
      exact List.mem_cons_of_mem _ hs
    · exact List.mem_cons_of_mem _ (h.started s hm)
  shared s t hs ht := h.shared s t (by simpa using hs) (by simpa using ht)

/-- A schema that was closed before is not active on account of another object. -/
theorem dismiss {schema : String} (h : Nested nests (schema :: active) history)
    (hc : .closed schema ∈ history) : Nested nests active history where
  finished s hs := by
    rcases h.finished s hs with hc' | ha
    · exact .inl hc'
    · rcases List.mem_cons.mp ha with rfl | ha
      · exact .inl hc
      · exact .inr ha
  started := h.started
  shared := h.shared

end Nested

namespace RequestBody

theorem mem_visitAll {v : Visit} {history : List Visit} (h : v ∈ history)
    (properties : List (String × RequestBody)) : v ∈ visitAll history properties := by
  obtain ⟨later, hl⟩ := visitAll_eq_append history properties
  rw [hl]
  exact List.mem_append_right _ h

theorem mentions_self (origin : Origin) (required : List String)
    (properties : List (String × RequestBody)) :
    (RequestBody.object (some origin) required properties).Mentions origin.name :=
  ⟨_, .self, rfl⟩

theorem within_property {origin : Option Origin} {required : List String}
    {properties : List (String × RequestBody)} {property : String × RequestBody}
    (h : property ∈ properties) : Within property.2 (.object origin required properties) :=
  .property h .self

mutual

theorem visit_nested {nests : String → String → Prop} {active : List String} {history : List Visit}
    (h : Nested nests active history) :
    (body : RequestBody) → Visit.Undisputed (visit history body) →
      (∀ s ∈ active, ∀ t, body.Mentions t → nests s t) →
      (∀ s t, body.Encloses s t → nests s t) → Nested nests active (visit history body)
  | .leaf .., _, _, _ => by
    rw [visit]
    exact h
  | .cut .., _, _, _ => by
    rw [visit]
    exact h
  | .array item, hu, hm, he => by
    rw [visit] at hu ⊢
    exact visit_nested h item hu (fun s hs t ht => hm s hs t (ht.within (.item .self)))
      fun s t ht => he s t (ht.within (.item .self))
  | .object none required properties, hu, hm, he => by
    rw [visit] at hu ⊢
    exact visitAll_nested h properties hu
      (fun p hp s hs t ht => hm s hs t (ht.within (within_property hp)))
      fun p hp s t ht => he s t (ht.within (within_property hp))
  | .object (some origin) required properties, hu, hm, he => by
    have hself := fun s hs => hm s hs origin.name (mentions_self origin required properties)
    rw [visit] at hu ⊢
    by_cases hc : .closed origin.name ∈ history
    · rw [if_pos hc] at hu ⊢
      exact (h.opened hu hself).dismiss (List.mem_cons_of_mem _ hc)
    · rw [if_neg hc] at hu ⊢
      have hopen := undisputed_of_visitAll hu
      have hinner : Nested nests (origin.name :: active)
          (visitAll (.opened origin.name :: history) properties) := by
        refine visitAll_nested (h.opened hopen hself) properties hu ?_
          fun p hp s t ht => he s t (ht.within (within_property hp))
        intro p hp s hs t ht
        rcases List.mem_cons.mp hs with rfl | hs
        · exact he origin.name t ⟨origin, required, properties, .self, rfl, p, hp, ht⟩
        · exact hm s hs t (ht.within (within_property hp))
      exact hinner.closed (mem_visitAll (List.mem_cons_self ..) properties)

theorem visitAll_nested {nests : String → String → Prop} {active : List String}
    {history : List Visit} (h : Nested nests active history) :
    (properties : List (String × RequestBody)) → Visit.Undisputed (visitAll history properties) →
      (∀ p ∈ properties, ∀ s ∈ active, ∀ t, p.2.Mentions t → nests s t) →
      (∀ p ∈ properties, ∀ s t, p.2.Encloses s t → nests s t) →
      Nested nests active (visitAll history properties)
  | [], _, _, _ => by
    rw [visitAll]
    exact h
  | (key, body) :: rest, hu, hm, he => by
    rw [visitAll] at hu ⊢
    have hfirst := visit_nested h body (undisputed_of_visitAll hu)
      (hm (key, body) (List.mem_cons_self ..)) (he (key, body) (List.mem_cons_self ..))
    exact visitAll_nested hfirst rest hu (fun p hp => hm p (List.mem_cons_of_mem _ hp))
      fun p hp => he p (List.mem_cons_of_mem _ hp)

end

theorem visitAll_split {property : String × RequestBody} {history : List Visit}
    {properties : List (String × RequestBody)} (h : property ∈ properties) :
    ∃ before later, visitAll history properties = later ++ visit before property.2 := by
  induction properties generalizing history with
  | nil => simp at h
  | cons first rest ih =>
    obtain ⟨key, body⟩ := first
    rw [visitAll]
    rcases List.mem_cons.mp h with rfl | h
    · obtain ⟨later, hl⟩ := visitAll_eq_append (visit history body) rest
      exact ⟨history, later, hl⟩
    · exact ih h

/-- An object is opened, unless it stands inside of one that was closed before under its name. -/
theorem opened_or_enclosed {body : RequestBody} {name : String} (h : body.Mentions name)
    (history : List Visit) :
    .opened name ∈ visit history body ∨
      ∃ outer, .closed outer ∈ visit history body ∧ body.Encloses outer name := by
  obtain ⟨part, hw, hn⟩ := h
  induction hw generalizing history with
  | self =>
    cases part with
    | leaf => cases hn
    | cut => cases hn
    | array item => cases hn
    | object origin required properties =>
      obtain ⟨origin, rfl, rfl⟩ := Option.map_eq_some_iff.mp hn
      rw [visit]
      split
      · exact .inl (List.mem_cons_self ..)
      · exact .inl (List.mem_cons_of_mem _ (mem_visitAll (List.mem_cons_self ..) properties))
  | item _ ih =>
    rw [visit]
    rcases ih history with ho | ⟨outer, hc, he⟩
    · exact .inl ho
    · exact .inr ⟨outer, hc, he.within (.item .self)⟩
  | @property origin required properties property hp hw ih =>
    have hlist : ∀ before, .opened name ∈ visitAll before properties ∨
        ∃ outer, .closed outer ∈ visitAll before properties ∧
          (RequestBody.object origin required properties).Encloses outer name := by
      intro before
      obtain ⟨between, later, hl⟩ := visitAll_split hp
      rw [hl]
      rcases ih between with ho | ⟨outer, hc, he⟩
      · exact .inl (List.mem_append_right _ ho)
      · exact .inr ⟨outer, List.mem_append_right _ hc, he.within (within_property hp)⟩
    cases origin with
    | none =>
      rw [visit]
      exact hlist history
    | some origin =>
      rw [visit]
      split
      · rename_i hc
        exact .inr ⟨origin.name, List.mem_cons_of_mem _ hc, origin, required, properties, .self, rfl,
          property, hp, part, hw, hn⟩
      · rcases hlist (.opened origin.name :: history) with ho | ⟨outer, hc, he⟩
        · exact .inl (List.mem_cons_of_mem _ ho)
        · exact .inr ⟨outer, List.mem_cons_of_mem _ hc, he⟩

end RequestBody
end OpenApiGen
