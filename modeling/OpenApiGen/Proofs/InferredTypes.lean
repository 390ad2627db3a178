import OpenApiGen.ModuleService
import OpenApiGen.RequestSchema
import OpenApiGen.Proofs.BodyFlattening

/-!
# The types that request schemas infer

What a schema lets through has a type. A parameter is declared with the type of its schema, and the
two are the same exactly where its text can be read as a value of that type.
-/

namespace OpenApiGen

namespace ZodSchema

def isOptional : ZodSchema → Bool
  | .optional _ => true
  | _ => false

mutual

/-- The type of the values that a schema lets through. That a field may be left out is said where it
stands in an object. -/
def inferred : ZodSchema → TypeExpr
  | any => .any
  | string => .string
  | number | integer | coercedNumber | coercedInteger => .number
  | boolean | coercedBoolean => .boolean
  | coercedDate => .date
  | stringEnum values | union values => .literals values
  | literal value => .literals [value]
  | array item => .array (inferred item)
  | object fields => RequestBody.recordType (inferredFields fields)
  | optional schema => inferred schema
  | nullable schema => .nullable (inferred schema)

def inferredFields : List (String × ZodSchema) → List (String × Bool × TypeExpr)
  | [] => []
  | (key, schema) :: fields => (key, schema.isOptional, inferred schema) :: inferredFields fields

end

theorem inferred_ofLiterals (values : List Json) : (ofLiterals values).inferred = .literals values := by
  unfold ofLiterals
  split
  · rw [inferred]
  · split <;> rw [inferred]

theorem inferred_orNull (schema : ZodSchema) (null : Bool) :
    (schema.orNull null).inferred = schema.inferred.orNull null := by
  cases null with
  | false => rfl
  | true =>
    unfold orNull TypeExpr.orNull
    rw [if_pos rfl, if_pos rfl, inferred]

theorem inferred_orOptional (schema : ZodSchema) (required : Bool) :
    (schema.orOptional required).inferred = schema.inferred := by
  cases required with
  | false =>
    unfold orOptional
    rw [if_neg (by decide), inferred]
  | true => rfl

end ZodSchema

namespace Schema

variable {schema : Schema}

theorem typeExpr_of_reference {reference : String} (hr : schema.reference = some reference) :
    schema.typeExpr
      = (TypeExpr.named (Reference.displayName reference)).orNull schema.isNullable := by
  rw [typeExpr.eq_def]
  simp only [hr]

theorem typeExpr_of_literals {values : List Json} (hr : schema.reference = none)
    (hl : schema.literals? = some values) : schema.typeExpr = .literals values := by
  rw [typeExpr.eq_def]
  simp only [hr, hl]

theorem typeExpr_of_array (hl : schema.literals? = none) (hk : schema.kind = .array) :
    schema.typeExpr = .array ((schema.items.map typeExpr).getD .any) := by
  have hr : schema.reference = none := reference_eq_none (by simp [hk])
  rw [typeExpr.eq_def]
  simp only [hr, hl, hk]
  cases schema with
  | mk type format nullable enumeration defaultValue exampleValue description properties items =>
    cases items <;> rfl

theorem typeExpr_of_kind (hr : schema.reference = none) (hl : schema.literals? = none)
    (hk : schema.kind ≠ .array) :
    schema.typeExpr = (TypeExpr.ofKind schema.kind schema.format).orNull schema.isNullable := by
  rw [typeExpr.eq_def]
  simp only [hr, hl]

/-- These parts are all that a type expression is made of. -/
theorem typeExpr_congr {s t : Schema} (hreference : s.reference = t.reference)
    (hliterals : s.literals? = t.literals?) (hkind : s.kind = t.kind) (hformat : s.format = t.format)
    (hnullable : s.isNullable = t.isNullable)
    (hitems : s.items.map typeExpr = t.items.map typeExpr) : s.typeExpr = t.typeExpr := by
  cases hr : s.reference with
  | some reference =>
    rw [typeExpr_of_reference hr, typeExpr_of_reference (hreference ▸ hr), hnullable]
  | none =>
    have hr' : t.reference = none := hreference ▸ hr
    cases hl : s.literals? with
    | some values => rw [typeExpr_of_literals hr hl, typeExpr_of_literals hr' (hliterals ▸ hl)]
    | none =>
      have hl' : t.literals? = none := hliterals ▸ hl
      by_cases hk : s.kind = .array
      · rw [typeExpr_of_array hl hk, typeExpr_of_array hl' (hkind ▸ hk), hitems]
      · rw [typeExpr_of_kind hr hl hk, typeExpr_of_kind hr' hl' (hkind ▸ hk), hkind, hformat,
          hnullable]

theorem ne_nil_of_literals {values : List Json} (h : schema.literals? = some values) :
    values ≠ [] := by
  rintro rfl
  obtain ⟨-, hempty⟩ := Option.filter_eq_some_iff.mp h
  simp at hempty

/-- A scalar whose type is that of a text which was coerced to it: one of several literals, or a
number, a boolean or a text that is no date, and never null. -/
def Coercible (schema : Schema) : Prop :=
  schema.reference = none ∧ (schema.literals? = none → schema.isNullable = false ∧
    match schema.kind with
    | .string => TypeExpr.isDateFormat schema.format = false
    | .number | .integer | .boolean => True
    | _ => False)

/-- A parameter of one of these scalars, or of an array of them. Literals of items that are in the
wrong place count for the parameter, but not for its type. -/
def CoercibleParameter (schema : Schema) : Prop :=
  if schema.kind = .array then
    schema.literals? = none ∧ ∃ items, schema.items = some items ∧ items.Coercible
  else schema.Coercible ∧ (schema.literals? = none → schema.items.bind literals? = none)

theorem typeExpr_ne_literals (hl : schema.literals? = none) (hk : schema.kind ≠ .array)
    (values : List Json) : schema.typeExpr ≠ .literals values := by
  cases hr : schema.reference with
  | some reference =>
    rw [typeExpr_of_reference hr]
    cases schema.isNullable <;> simp [TypeExpr.orNull]
  | none =>
    rw [typeExpr_of_kind hr hl hk]
    cases schema.isNullable <;> cases schema.kind <;> simp [TypeExpr.orNull, TypeExpr.ofKind]
    split <;> simp

end Schema

namespace ZodSchema

theorem inferred_ofTextScalar {values : List Json} (h : values ≠ []) (kind : SchemaKind) :
    (ofTextScalar kind values).inferred = .literals values := by
  unfold ofTextScalar
  rw [if_pos (by simpa using h), inferred_ofLiterals]

/-- The type of a schema against that of a text coerced to its kind. -/
theorem typeExpr_eq_inferred_iff (schema : Schema) :
    schema.typeExpr = (ofTextScalar schema.kind (schema.literals?.getD [])).inferred ↔
      schema.Coercible := by
  unfold Schema.Coercible
  cases hr : schema.reference with
  | some reference =>
    rw [Schema.typeExpr_of_reference hr, Schema.kind_of_reference hr]
    refine ⟨fun h => ?_, fun h => by cases h.1⟩
    cases hl : schema.literals? with
    | none =>
      rw [hl] at h
      cases hn : schema.isNullable <;> simp [hn, TypeExpr.orNull, ofTextScalar, inferred] at h
    | some values =>
      rw [hl, Option.getD_some, inferred_ofTextScalar (Schema.ne_nil_of_literals hl)] at h
      cases hn : schema.isNullable <;> simp [hn, TypeExpr.orNull] at h
  | none =>
    cases hl : schema.literals? with
    | some values =>
      rw [Schema.typeExpr_of_literals hr hl, Option.getD_some,
        inferred_ofTextScalar (Schema.ne_nil_of_literals hl)]
      simp
    | none =>
      rw [Option.getD_none]
      simp only [true_and, forall_const]
      by_cases ha : schema.kind = .array
      · rw [Schema.typeExpr_of_array hl ha, ha]
        simp [ofTextScalar, inferred]
      · rw [Schema.typeExpr_of_kind hr hl ha]
        cases hn : schema.isNullable <;> cases hk : schema.kind <;>
          simp [TypeExpr.orNull, TypeExpr.ofKind, ofTextScalar, inferred]

end ZodSchema

namespace Parameter

theorem ofEntry_of_schema {entry : ParameterEntry} {schema : Schema}
    (hs : entry.schema = some schema) (hk : schema.kind ≠ .unknown) :
    ofEntry entry =
      { name := entry.name, location := entry.location, kind := schema.kind
        type := schema.typeExpr
        itemKind := schema.items.map Schema.kind
        literals := (schema.literals? <|> schema.items.bind Schema.literals?).getD []
        required := entry.required.getD false } := by
  unfold ofEntry
  rw [hs, Option.filter_some, if_pos (by simpa using hk)]

theorem ofEntry_of_untyped {entry : ParameterEntry}
    (h : ∀ schema, entry.schema = some schema → schema.kind = .unknown) :
    ofEntry entry =
      { name := entry.name, location := entry.location, kind := .string, type := .string,
        itemKind := none, literals := [], required := entry.required.getD false } := by
  unfold ofEntry
  cases hs : entry.schema with
  | none => rfl
  | some schema => rw [Option.filter_some, if_neg (by simpa using h schema hs)]

variable {entry : ParameterEntry} {schema : Schema}

theorem ofParameter_of_array (hs : entry.schema = some schema) (hk : schema.kind = .array) :
    ZodSchema.ofParameter (ofEntry entry) =
      .array (ZodSchema.ofTextScalar ((schema.items.map Schema.kind).getD .string)
        ((schema.literals? <|> schema.items.bind Schema.literals?).getD [])) := by
  rw [ofEntry_of_schema hs (by simp [hk])]
  unfold ZodSchema.ofParameter
  simp only [hk]

theorem ofParameter_of_scalar (hs : entry.schema = some schema) (hk : schema.kind ≠ .unknown)
    (ha : schema.kind ≠ .array) :
    ZodSchema.ofParameter (ofEntry entry) =
      ZodSchema.ofTextScalar schema.kind
        ((schema.literals? <|> schema.items.bind Schema.literals?).getD []) := by
  rw [ofEntry_of_schema hs hk]
  unfold ZodSchema.ofParameter
  simp only

theorem type_eq_inferred_of_array (hs : entry.schema = some schema) (hk : schema.kind = .array) :
    (ofEntry entry).type = (ZodSchema.ofParameter (ofEntry entry)).inferred ↔
      schema.CoercibleParameter := by
  have hr : schema.reference = none := Schema.reference_eq_none (by simp [hk])
  have htype : (ofEntry entry).type = schema.typeExpr := by
    rw [ofEntry_of_schema hs (by simp [hk])]
  unfold Schema.CoercibleParameter
  rw [htype, ofParameter_of_array hs hk, if_pos hk, ZodSchema.inferred]
  cases hl : schema.literals? with
  | some values =>
    rw [Schema.typeExpr_of_literals hr hl]
    simp
  | none =>
    rw [Schema.typeExpr_of_array hl hk]
    cases hi : schema.items with
    | none => simp [ZodSchema.ofTextScalar, ZodSchema.inferred]
    | some items => simpa using ZodSchema.typeExpr_eq_inferred_iff items

theorem type_eq_inferred_of_scalar (hs : entry.schema = some schema) (hk : schema.kind ≠ .unknown)
    (ha : schema.kind ≠ .array) :
    (ofEntry entry).type = (ZodSchema.ofParameter (ofEntry entry)).inferred ↔
      schema.CoercibleParameter := by
  have htype : (ofEntry entry).type = schema.typeExpr := by
    rw [ofEntry_of_schema hs hk]
  unfold Schema.CoercibleParameter
  rw [htype, ofParameter_of_scalar hs hk ha, if_neg ha]
  have hown := ZodSchema.typeExpr_eq_inferred_iff schema
  cases hl : schema.literals? with
  | some values =>
    rw [hl] at hown
    simpa using hown
  | none =>
    rw [hl] at hown
    cases hitems : schema.items.bind Schema.literals? with
    | none => simpa using hown
    | some values =>
      -- the literals stand with the items, where the type does not look for them
      obtain ⟨items, -, hvalues⟩ := Option.bind_eq_some_iff.mp hitems
      have hne := Schema.typeExpr_ne_literals hl ha values
      simpa [ZodSchema.inferred_ofTextScalar (Schema.ne_nil_of_literals hvalues)] using hne

/-- The type of a parameter is what its schema infers exactly if the parameter has no schema of a
kind, or one that texts can be coerced to. -/
theorem type_eq_inferred_iff (entry : ParameterEntry) :
    (ofEntry entry).type = (ZodSchema.ofParameter (ofEntry entry)).inferred ↔
      ∀ schema, entry.schema = some schema → schema.kind ≠ .unknown →
        schema.CoercibleParameter := by
  by_cases h : ∃ schema, entry.schema = some schema ∧ schema.kind ≠ .unknown
  · obtain ⟨schema, hs, hk⟩ := h
    have honly : (∀ other, entry.schema = some other → other.kind ≠ .unknown →
        other.CoercibleParameter) ↔ schema.CoercibleParameter := by
      constructor
      · intro hall
        exact hall schema hs hk
      · intro hc other ho _
        cases hs.symm.trans ho
        exact hc
    rw [honly]
    by_cases ha : schema.kind = .array
    · exact type_eq_inferred_of_array hs ha
    · exact type_eq_inferred_of_scalar hs hk ha
  · have huntyped : ∀ schema, entry.schema = some schema → schema.kind = .unknown := by
      intro schema hs
      by_contra hk
      exact h ⟨schema, hs, hk⟩
    refine ⟨fun _ schema hs hk => absurd (huntyped schema hs) hk, fun _ => ?_⟩
    rw [ofEntry_of_untyped huntyped]
    rfl

/-- The day of an appointment. -/
def dayEntry : ParameterEntry where
  name := "day"
  location := .query
  required := none
  schema := some { type := some (.single "string"), format := some "date" }
  description := none

/-- A date is declared, where the schema lets a text through as it is. -/
theorem date_parameter_is_text :
    (ofEntry dayEntry).type = .date ∧
      ZodSchema.ofParameter (ofEntry dayEntry) = .string ∧
      (ofEntry dayEntry).type ≠ (ZodSchema.ofParameter (ofEntry dayEntry)).inferred := by
  refine ⟨rfl, rfl, ?_⟩
  intro h
  cases h

end Parameter
end OpenApiGen
