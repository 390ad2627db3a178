import OpenApiGen.Proofs.BodyTypes
import OpenApiGen.Proofs.ExtractedBodies
import OpenApiGen.Proofs.FlatteningOutcomes
import OpenApiGen.Proofs.InferredTypes
import OpenApiGen.Proofs.TypeTexts

/-!
# Bodies without references and objects

A schema of this form has a type of its own, which parameters are declared with, and it has the type
of the body that it is flattened to. Both are read off it from the top, but only the first asks an
array for its enumeration before its items.
-/

namespace OpenApiGen

open RequestBody

namespace Schema

/-- A schema without references and objects, with at most this many arrays one inside the other. -/
inductive Plain : Nat → Schema → Prop
  | scalar {room schema} (hr : schema.reference = none) (ho : schema.kind ≠ .object)
      (ha : schema.kind ≠ .array) : Plain room schema
  | itemless {room schema} (ha : schema.kind = .array) (hi : schema.items = none) :
      Plain (room + 1) schema
  | array {room schema items} (ha : schema.kind = .array) (hi : schema.items = some items)
      (h : Plain room items) : Plain (room + 1) schema

/-- On the way down through the items of arrays there is an array with an enumeration. -/
inductive EnumeratedArray : Schema → Prop
  | own {schema} (ha : schema.kind = .array) (hl : schema.literals? ≠ none) :
      EnumeratedArray schema
  | items {schema items} (ha : schema.kind = .array) (hi : schema.items = some items)
      (h : EnumeratedArray items) : EnumeratedArray schema

variable {schema : Schema}

theorem not_enumeratedArray_of_scalar (ha : schema.kind ≠ .array) : ¬schema.EnumeratedArray := by
  intro h
  cases h with
  | own hk => exact ha hk
  | items hk => exact ha hk

theorem enumeratedArray_iff (ha : schema.kind = .array) :
    schema.EnumeratedArray ↔
      schema.literals? ≠ none ∨ ∃ items, schema.items = some items ∧ items.EnumeratedArray := by
  constructor
  · intro h
    cases h with
    | own hk hl => exact .inl hl
    | items hk hi h => exact .inr ⟨_, hi, h⟩
  · rintro (hl | ⟨items, hi, h⟩)
    · exact .own ha hl
    · exact .items ha hi h

theorem text_typeExpr_ne_empty (hr : schema.reference = none) (ha : schema.kind ≠ .array)
    (indent : Nat) : schema.typeExpr.text indent ≠ "" := by
  cases hl : schema.literals? with
  | some values =>
    rw [typeExpr_of_literals hr hl, TypeExpr.text]
    exact TypeExpr.union_ne_empty (ne_nil_of_literals hl)
  | none =>
    rw [typeExpr_of_kind hr hl ha]
    cases schema.isNullable with
    | false =>
      cases hk : schema.kind with
      | array => exact absurd hk ha
      | string =>
        rw [TypeExpr.ofKind, TypeExpr.orNull, if_neg (by decide)]
        split <;> simp [TypeExpr.text]
      | _ => simp [TypeExpr.orNull, TypeExpr.ofKind, TypeExpr.text]
    | true => simp [TypeExpr.orNull, TypeExpr.text]

/-- The text of an array against that of a schema of arrays: the schema has no enumeration, and the
items have one text. -/
theorem text_array_eq_iff (ha : schema.kind = .array) {item : TypeExpr} {indent : Nat}
    (hitem : item.text indent ≠ "") :
    (TypeExpr.array item).text indent = schema.typeExpr.text indent ↔
      schema.literals? = none ∧
        item.text indent = ((schema.items.map typeExpr).getD .any).text indent := by
  cases hl : schema.literals? with
  | some values =>
    have hr : schema.reference = none := reference_eq_none (by simp [ha])
    rw [typeExpr_of_literals hr hl, TypeExpr.text, TypeExpr.text]
    simpa using TypeExpr.arrayOfText_ne_union hitem values
  | none =>
    rw [typeExpr_of_array hl ha, TypeExpr.text, TypeExpr.text, TypeExpr.arrayOfText_inj]
    simp

/-- One level after the other: the type of the body declares nothing, and it is the type of the schema
as long as no array has an enumeration. -/
theorem Plain.exists_body {room : Nat} (h : schema.Plain room) (doc : Document) (depth : Nat)
    (hd : depth + room ≤ deepest) (enclosing : List String) :
    ∃ body type, Outcome doc False depth enclosing none schema (some body) ∧
      (∀ declarations, body.type.run declarations = .ok (type, declarations)) ∧
        ∀ indent, type.text indent ≠ "" ∧
          (type.text indent = schema.typeExpr.text indent ↔ ¬schema.EnumeratedArray) := by
  induction h generalizing depth with
  | @scalar room schema hr ho ha =>
    refine ⟨ofLeaf schema, schema.typeExpr, .leaf (by omega) hr ho ha, fun declarations => ?_,
      fun indent => ⟨text_typeExpr_ne_empty hr ha indent, ?_⟩⟩
    · rw [ofLeaf, run_type_leaf]
    · exact iff_of_true rfl (not_enumeratedArray_of_scalar ha)
  | @itemless room schema ha hi =>
    refine ⟨.array (untyped none), .array .any, .itemless (by omega) ha hi, fun declarations => ?_,
      fun indent => ?_⟩
    · rw [run_type_array, untyped, run_type_leaf]
      rfl
    · have hany : TypeExpr.any.text indent ≠ "" := by
        rw [TypeExpr.text]
        decide
      constructor
      · rw [TypeExpr.text]
        exact TypeExpr.arrayOfText_ne_empty _
      · rw [text_array_eq_iff ha hany, enumeratedArray_iff ha]
        simp [hi]
  | @array room schema items ha hi _ ih =>
    obtain ⟨item, type, houtcome, hrun, htext⟩ := ih (depth + 1) (by omega)
    refine ⟨.array item, .array type, .array (by omega) ha hi houtcome, fun declarations => ?_,
      fun indent => ?_⟩
    · rw [run_type_array, hrun]
      rfl
    · obtain ⟨hne, hiff⟩ := htext indent
      constructor
      · rw [TypeExpr.text]
        exact TypeExpr.arrayOfText_ne_empty _
      · rw [text_array_eq_iff ha hne, enumeratedArray_iff ha, hi]
        simpa using and_congr_right fun _ => hiff

/-- A schema without references and objects has as a body the type that it has of its own, which is
that of parameters with it, exactly if no array in it has an enumeration. -/
theorem Plain.body_type_eq_iff (h : schema.Plain deepest) (doc : Document) :
    ∃ body type, (flatten doc schema).value = some body ∧
      (∀ declarations, body.type.run declarations = .ok (type, declarations)) ∧
      ∀ indent,
        (type.text indent = schema.typeExpr.text indent ↔ ¬schema.EnumeratedArray) ∧
        ∀ entry : ParameterEntry, entry.schema = some schema → schema.kind ≠ .unknown →
          (type.text indent = (Parameter.ofEntry entry).type.text indent ↔
            ¬schema.EnumeratedArray) := by
  obtain ⟨body, type, houtcome, hrun, htext⟩ := h.exists_body doc 0 (by omega) []
  refine ⟨body, type, houtcome.value_eq (by omega), hrun, fun indent => ⟨(htext indent).2, ?_⟩⟩
  intro entry hs hk
  rw [Parameter.ofEntry_of_schema hs hk]
  exact (htext indent).2

/-- Rows of cells that are open or taken. -/
def board : Schema where
  type := some (.single "array")
  items := some {
    type := some (.single "array")
    items := some { type := some (.single "string"),
                    enumeration := some [.string "open", .string "taken"] } }

/-- Pairs of names, of which two are allowed. -/
def allowedPairs : Schema where
  type := some (.single "array")
  items := some { type := some (.single "string") }
  enumeration := some [.array [.string "a", .string "b"], .array [.string "b", .string "a"]]

def boardsDocument : Document := .ofBodies "/boards" [(.post, board), (.put, allowedPairs)] []

theorem Plain.body_type_eq_iff_board :
    board.Plain deepest ∧ ¬board.EnumeratedArray ∧
      ∃ body type, (flatten boardsDocument board).value = some body ∧
        (∀ declarations, body.type.run declarations = .ok (type, declarations)) ∧
        type.text 0 = "((\"open\" | \"taken\")[])[]" := by
  have hplain : board.Plain deepest := .array rfl rfl (.array rfl rfl (.scalar rfl nofun nofun))
  have henumerated : ¬board.EnumeratedArray := by
    intro h
    cases h with
    | own _ hl => exact hl rfl
    | items _ hi h =>
      cases hi
      cases h with
      | own _ hl => exact hl rfl
      | items _ hi h =>
        cases hi
        exact not_enumeratedArray_of_scalar (by decide) h
  obtain ⟨body, type, hvalue, hrun, htext⟩ := hplain.body_type_eq_iff boardsDocument
  refine ⟨hplain, henumerated, body, type, hvalue, hrun, ?_⟩
  rw [(htext 0).1.mpr henumerated]
  decide +kernel

/-- Allowed pairs are a parameter of two values, and a body of any names. -/
theorem array_enumeration_lost_in_body :
    allowedPairs.Plain deepest ∧
      allowedPairs.typeExpr.text 0 = "[\"a\",\"b\"] | [\"b\",\"a\"]" ∧
      ∃ body type, (flatten boardsDocument allowedPairs).value = some body ∧
        (∀ declarations, body.type.run declarations = .ok (type, declarations)) ∧
        type.text 0 = "string[]" := by
  refine ⟨.array rfl rfl (.scalar rfl nofun nofun), by decide +kernel, _, .array .string, rfl, ?_,
    by decide +kernel⟩
  intro declarations
  rw [run_type_array]
  rfl

end Schema
end OpenApiGen
