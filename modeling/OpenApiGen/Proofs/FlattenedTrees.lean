import OpenApiGen.Proofs.BodyParts
import OpenApiGen.Proofs.FlatteningOutcomes
import OpenApiGen.Proofs.SchemaWalks

/-!
# The form of a flattened body

A cut stands below the object that it names, no object stands below one of its own name, and no way
down is longer than the greatest depth and one.
-/

namespace OpenApiGen.RequestBody

/-- A body may stand inside of objects of these names, and no way down from it is longer than the
room there is. -/
inductive Fits (doc : Document) : Nat → List String → RequestBody → Prop
  | leaf {room names type kind literals nullable description} (hk : kind ≠ .reference) :
      Fits doc room names (.leaf type kind literals nullable description)
  | cut {room names name nullable description target} (hn : name ∈ names)
      (ht : doc.schema? name = some target) (hk : target.kind = .object) :
      Fits doc room names (.cut name nullable description)
  | array {room names item} (h : Fits doc room names item) : Fits doc (room + 1) names (.array item)
  | inline {room names required properties}
      (h : ∀ property ∈ properties, Fits doc room names property.2) :
      Fits doc (room + 1) names (.object none required properties)
  | named {room names origin required properties} (hn : origin.name ∉ names)
      (h : ∀ property ∈ properties, Fits doc room (origin.name :: names) property.2) :
      Fits doc (room + 1) names (.object (some origin) required properties)

/-- The names of the schemas that are being followed, against those of the enclosing objects: a name
that is no object's belongs to a schema of another kind, or to the schema at hand. -/
structure Follows (doc : Document) (enclosing names : List String) (origin : Option Origin)
    (schema : Schema) : Prop where
  inside : ∀ name ∈ names, name ∈ enclosing
  settled : ∀ name ∈ enclosing, name ∈ names ∨ origin.map Origin.name = some name ∨
    ∀ target, doc.schema? name = some target → target.kind ≠ .object
  reached : ∀ o, origin = some o →
    o.name ∈ enclosing ∧ o.name ∉ names ∧ doc.schema? o.name = some schema

variable {doc : Document} {room : Nat} {enclosing names : List String} {origin : Option Origin}
  {schema : Schema}

theorem fits_untyped (description : Option String) : Fits doc room names (untyped description) :=
  .leaf (by decide)

theorem fits_ofLeaf (hr : schema.reference = none) : Fits doc room names (ofLeaf schema) :=
  .leaf (Schema.kind_ne_reference hr)

theorem Fits.more {body : RequestBody} (h : Fits doc room names body) :
    Fits doc (room + 1) names body := by
  induction h with
  | leaf hk => exact .leaf hk
  | cut hn ht hk => exact .cut hn ht hk
  | array _ ih => exact .array ih
  | inline _ ih => exact .inline ih
  | named hn _ ih => exact .named hn ih

theorem Fits.getD {result : Option RequestBody}
    (h : ∀ {body}, result = some body → Fits doc room names body) (description : Option String) :
    Fits doc room names (result.getD (untyped description)) := by
  cases result with
  | none => exact fits_untyped description
  | some body => exact h rfl

namespace Follows

/-- Below the schema at hand, the name it was reached by is settled, for it is no object. -/
theorem below (h : Follows doc enclosing names origin schema) (hk : schema.kind ≠ .object)
    (property : Schema) : Follows doc enclosing names none property where
  inside := h.inside
  settled name hn := by
    rcases h.settled name hn with hn | ho | ht
    · exact .inl hn
    · obtain ⟨o, rfl, rfl⟩ := Option.map_eq_some_iff.mp ho
      refine .inr (.inr fun target ht => ?_)
      cases (h.reached o rfl).2.2.symm.trans ht
      exact hk
    · exact .inr (.inr ht)
  reached o ho := by cases ho

theorem inline (h : Follows doc enclosing names none schema) (property : Schema) :
    Follows doc enclosing names none property where
  inside := h.inside
  settled := h.settled
  reached o ho := by cases ho

theorem follow (h : Follows doc enclosing names origin schema) {next : Origin} {target : Schema}
    (hl : Leads doc schema next target) (hn : next.name ∉ enclosing) :
    Follows doc (next.name :: enclosing) names (some next) target where
  inside name hname := List.mem_cons_of_mem _ (h.inside name hname)
  settled name hname := by
    rcases List.mem_cons.mp hname with rfl | hname
    · exact .inr (.inl rfl)
    · have hkind : schema.kind ≠ .object := by simp [hl.kind]
      rcases (h.below hkind schema).settled name hname with hs | hs | hs
      · exact .inl hs
      · cases hs
      · exact .inr (.inr hs)
  reached o ho := by
    cases ho
    exact ⟨List.mem_cons_self .., fun hname => hn (h.inside _ hname), hl.2.2⟩

theorem named {reached : Origin} (h : Follows doc enclosing names (some reached) schema)
    (property : Schema) : Follows doc enclosing (reached.name :: names) none property where
  inside name hname := by
    rcases List.mem_cons.mp hname with rfl | hname
    · exact (h.reached reached rfl).1
    · exact h.inside name hname
  settled name hname := by
    rcases h.settled name hname with hs | hs | hs
    · exact .inl (List.mem_cons_of_mem _ hs)
    · cases hs
      exact .inl (List.mem_cons_self ..)
    · exact .inr (.inr hs)
  reached o ho := by cases ho

/-- A reference back to an object names one of the enclosing ones. -/
theorem mem_names (h : Follows doc enclosing names origin schema) {next : Origin} {target : Schema}
    (hl : Leads doc schema next target) (hn : next.name ∈ enclosing) (hk : target.kind = .object) :
    next.name ∈ names := by
  have hkind : schema.kind ≠ .object := by simp [hl.kind]
  rcases (h.below hkind schema).settled next.name hn with hs | hs | hs
  · exact hs
  · cases hs
  · exact absurd hk (hs target hl.2.2)

end Follows

theorem Outcome.fits {lossy : Prop} {depth : Nat} {result : Option RequestBody}
    (h : Outcome doc lossy depth enclosing origin schema result)
    (hf : Follows doc enclosing names origin schema) (hroom : room + depth = deepest + 1)
    {body : RequestBody} (hb : result = some body) : Fits doc room names body := by
  induction h generalizing room names body with
  | truncated hd =>
    cases hb
    exact fits_untyped _
  | foreign hd hr hn => cases hb
  | missing hd hr hn ht => cases hb
  | cut hd hl hn hk =>
    cases hb
    exact .cut (hf.mem_names hl hn hk) hl.2.2 hk
  | looped hd hl hn hk =>
    cases hb
    exact fits_untyped _
  | follow hd hl hn _ ih =>
    obtain ⟨below, rfl⟩ : ∃ below, room = below + 1 := ⟨room - 1, by omega⟩
    exact (ih (hf.follow hl hn) (by omega) hb).more
  | @object depth enclosing origin schema hd hk resultOf _ ih =>
    obtain ⟨below, rfl⟩ : ∃ below, room = below + 1 := ⟨room - 1, by omega⟩
    cases hb
    cases origin with
    | none =>
      refine .inline fun property hp => ?_
      obtain ⟨p, hmem, rfl⟩ := List.mem_map.mp hp
      exact Fits.getD (ih p hmem (hf.inline p.2) (by omega)) _
    | some reached =>
      refine .named (hf.reached reached rfl).2.1 fun property hp => ?_
      obtain ⟨p, hmem, rfl⟩ := List.mem_map.mp hp
      exact Fits.getD (ih p hmem (hf.named p.2) (by omega)) _
  | itemless hd hk hi =>
    obtain ⟨below, rfl⟩ : ∃ below, room = below + 1 := ⟨room - 1, by omega⟩
    cases hb
    exact .array (fits_untyped _)
  | array hd hk hi _ ih =>
    obtain ⟨below, rfl⟩ : ∃ below, room = below + 1 := ⟨room - 1, by omega⟩
    cases hb
    exact .array (Fits.getD (ih (hf.below (by simp [hk]) _) (by omega)) _)
  | leaf hd hr ho ha =>
    cases hb
    exact fits_ofLeaf hr

/-- A flattened body stands nowhere, and has the greatest depth and one to itself. -/
theorem fits_of_flatten {tree : RequestBody} (h : (flatten doc schema).value = some tree) :
    Fits doc (deepest + 1) [] tree := by
  have htop : Follows doc [] [] none schema :=
    ⟨by simp, by simp, by simp⟩
  exact (outcome_iff.mpr rfl).fits htop rfl h

/-- The names of the objects that are passed on a way down, the last one first. -/
def namesAbove (above : List RequestBody) : List String := (above.filterMap name?).reverse

theorem namesAbove_cons_of_none {body : RequestBody} (h : body.name? = none)
    (above : List RequestBody) : namesAbove (body :: above) = namesAbove above := by
  simp [namesAbove, h]

theorem namesAbove_cons_of_some {body : RequestBody} {name : String} (h : body.name? = some name)
    (above : List RequestBody) : namesAbove (body :: above) = namesAbove above ++ [name] := by
  simp [namesAbove, h]

theorem mem_namesAbove {above : List RequestBody} {name : String} :
    name ∈ namesAbove above ↔ ∃ object ∈ above, object.name? = some name := by
  simp [namesAbove]

/-- On a way down the room gets less by one body at a time, and the names more by those passed. -/
theorem Fits.descends {tree body : RequestBody} {above : List RequestBody}
    (h : Fits doc room names tree) (hd : Descends tree above body) :
    ∃ left, above.length + left = room ∧ Fits doc left (namesAbove above ++ names) body := by
  induction hd generalizing room names with
  | here => exact ⟨room, by simp, by simpa [namesAbove] using h⟩
  | item _ ih =>
    cases h with
    | array h =>
      obtain ⟨left, hl, hb⟩ := ih h
      rw [namesAbove_cons_of_none rfl]
      exact ⟨left, by rw [List.length_cons]; omega, hb⟩
  | property hp _ ih =>
    cases h with
    | inline h =>
      obtain ⟨left, hl, hb⟩ := ih (h _ hp)
      rw [namesAbove_cons_of_none rfl]
      exact ⟨left, by rw [List.length_cons]; omega, hb⟩
    | named _ h =>
      obtain ⟨left, hl, hb⟩ := ih (h _ hp)
      rw [namesAbove_cons_of_some rfl, List.append_assoc]
      exact ⟨left, by rw [List.length_cons]; omega, hb⟩

/-- Flattening comes to an end on every schema, with one result. In a body that it gives, a cut stands
below an object of the name that it has, which is the name of an object schema, and no other leaf
counts as a reference; no object stands below one of its own name; and no way down is longer than the
greatest depth and one. -/
theorem flatten_ends_bounded (doc : Document) (schema : Schema) :
    (∃! result, Outcome doc True 0 [] none schema result) ∧
    ∀ tree, (flatten doc schema).value = some tree →
      Outcome doc True 0 [] none schema (some tree) ∧
      ∀ above body, Descends tree above body →
        (∀ name nullable description, body = .cut name nullable description →
          (∃ object ∈ above, object.name? = some name) ∧
            ∃ target, doc.schema? name = some target ∧ target.kind = .object) ∧
        (∀ type literals nullable description,
          body ≠ .leaf type .reference literals nullable description) ∧
        (∀ name, body.name? = some name → ∀ object ∈ above, object.name? ≠ some name) ∧
        above.length ≤ deepest + 1 := by
  refine ⟨⟨_, outcome_iff.mpr rfl, fun result h => (outcome_iff.mp h).symm⟩, ?_⟩
  intro tree ht
  refine ⟨outcome_iff.mpr ht, fun above body hd => ?_⟩
  obtain ⟨left, hl, hfits⟩ := (fits_of_flatten ht).descends hd
  refine ⟨?_, ?_, ?_, by omega⟩
  · rintro name nullable description rfl
    cases hfits with
    | cut hn ht hk => exact ⟨mem_namesAbove.mp (by simpa using hn), _, ht, hk⟩
  · rintro type literals nullable description rfl
    cases hfits with
    | leaf hk => exact hk rfl
  · intro name hname object ho he
    cases hfits with
    | leaf => cases hname
    | cut => cases hname
    | array => cases hname
    | inline => cases hname
    | named hn _ =>
      cases hname
      exact hn (by simpa using mem_namesAbove.mpr ⟨object, ho, he⟩)

/-- What a node holds, and the node again. -/
def nodeBody : RequestBody :=
  .object (some ⟨"Node", "#/components/schemas/Node"⟩) ["labels"]
    [("labels", .array (.leaf .string .string [] false none)), ("next", .cut "Node" false none)]

theorem outcome_nodeReference {depth : Nat} (hd : depth + 3 ≤ deepest) :
    Outcome nodeDocument True depth [] none nodeReference (some nodeBody) := by
  have hlabel : Outcome nodeDocument True (depth + 3) ["Node"] none labelSchema
      (some (ofLeaf labelSchema)) := .leaf hd rfl (by decide) (by decide)
  have hlabels : Outcome nodeDocument True (depth + 2) ["Node"] none labelsSchema
      (some (.array (ofLeaf labelSchema))) := .array (by omega) rfl rfl hlabel
  have hnext : Outcome nodeDocument True (depth + 2) ["Node"] none nodeReference
      (some (.cut "Node" false none)) := .cut (by omega) nodeReference_leads (by simp) rfl
  let resultOf : Schema → Option RequestBody := fun property =>
    if property.reference.isSome then some (.cut "Node" false none)
    else some (.array (ofLeaf labelSchema))
  refine .follow (by omega) nodeReference_leads (by simp) ?_
  refine .object (by omega) rfl resultOf fun property hp => ?_
  rcases List.mem_cons.mp hp with rfl | hp
  · exact hlabels
  · obtain rfl := List.mem_singleton.mp hp
    exact hnext

theorem flatten_nodeReference : (flatten nodeDocument nodeReference).value = some nodeBody :=
  outcome_iff.mp (outcome_nodeReference (by decide))

/-- The next node is cut below the first one. -/
theorem flatten_ends_bounded_nodes :
    (flatten nodeDocument nodeReference).value = some nodeBody ∧
      Descends nodeBody [nodeBody] (.cut "Node" false none) ∧
      (∃ object ∈ [nodeBody], object.name? = some "Node") ∧ [nodeBody].length ≤ deepest + 1 := by
  have hway : Descends nodeBody [nodeBody] (.cut "Node" false none) :=
    .property (List.mem_cons_of_mem _ (List.mem_singleton.mpr rfl)) .here
  obtain ⟨-, hbounded⟩ := flatten_ends_bounded nodeDocument nodeReference
  obtain ⟨-, hdescends⟩ := hbounded nodeBody flatten_nodeReference
  obtain ⟨hcut, -, -, hlength⟩ := hdescends _ _ hway
  exact ⟨flatten_nodeReference, hway, (hcut "Node" false none rfl).1, hlength⟩

end OpenApiGen.RequestBody
