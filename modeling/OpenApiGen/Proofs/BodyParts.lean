import OpenApiGen.RequestBody

/-! # Bodies inside of bodies -/

namespace OpenApiGen.RequestBody

/-- A body stands somewhere in another one, or is the same. -/
inductive Within (part : RequestBody) : RequestBody → Prop
  | self : Within part part
  | item {item} (h : Within part item) : Within part (.array item)
  | property {origin required properties property} (hp : property ∈ properties)
      (h : Within part property.2) : Within part (.object origin required properties)

theorem Within.trans {a b c : RequestBody} (h : Within a b) (h' : Within b c) : Within a c := by
  induction h' with
  | self => exact h
  | item _ ih => exact .item ih
  | property hp _ ih => exact .property hp ih

mutual

/-- The parts of a body, the body itself first. -/
def parts : RequestBody → List RequestBody
  | .leaf type kind literals nullable description => [.leaf type kind literals nullable description]
  | .cut name nullable description => [.cut name nullable description]
  | .array item => .array item :: parts item
  | .object origin required properties =>
    .object origin required properties :: partsOfAll properties

def partsOfAll : List (String × RequestBody) → List RequestBody
  | [] => []
  | (_, body) :: rest => parts body ++ partsOfAll rest

end

theorem mem_parts_self (body : RequestBody) : body ∈ parts body := by
  cases body <;> rw [parts] <;> exact List.mem_cons_self ..

theorem mem_partsOfAll {part : RequestBody} {properties : List (String × RequestBody)} :
    part ∈ partsOfAll properties ↔ ∃ property ∈ properties, part ∈ parts property.2 := by
  induction properties with
  | nil => simp [partsOfAll]
  | cons property rest ih => simp [partsOfAll, ih]

theorem mem_parts_of_within {part body : RequestBody} (h : Within part body) :
    part ∈ parts body := by
  induction h with
  | self => exact mem_parts_self part
  | item _ ih =>
    rw [parts]
    exact List.mem_cons_of_mem _ ih
  | property hp _ ih =>
    rw [parts]
    exact List.mem_cons_of_mem _ (mem_partsOfAll.mpr ⟨_, hp, ih⟩)

/-- An object of this name stands in the body. -/
def Mentions (body : RequestBody) (name : String) : Prop :=
  ∃ part, Within part body ∧ part.name? = some name

/-- An object of the name `inner` stands inside of one of the name `outer`. -/
def Encloses (body : RequestBody) (outer inner : String) : Prop :=
  ∃ origin required properties,
    Within (.object (some origin) required properties) body ∧ origin.name = outer ∧
      ∃ property ∈ properties, Mentions property.2 inner

theorem Mentions.within {a b : RequestBody} {name : String} (h : Mentions a name)
    (hw : Within a b) : Mentions b name := by
  obtain ⟨part, hp, hn⟩ := h
  exact ⟨part, hp.trans hw, hn⟩

theorem Encloses.within {a b : RequestBody} {outer inner : String} (h : Encloses a outer inner)
    (hw : Within a b) : Encloses b outer inner := by
  obtain ⟨origin, required, properties, ho, hn, hi⟩ := h
  exact ⟨origin, required, properties, ho.trans hw, hn, hi⟩

/-- A way down a body: the bodies that it passes, the outermost first, and the one it ends at. -/
inductive Descends : RequestBody → List RequestBody → RequestBody → Prop
  | here {body} : Descends body [] body
  | item {item above body} (h : Descends item above body) :
      Descends (.array item) (.array item :: above) body
  | property {origin required properties property above body} (hp : property ∈ properties)
      (h : Descends property.2 above body) :
      Descends (.object origin required properties) (.object origin required properties :: above)
        body

end OpenApiGen.RequestBody
