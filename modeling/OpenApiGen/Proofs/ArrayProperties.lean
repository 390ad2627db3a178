import OpenApiGen.Proofs.ArrayTexts
import OpenApiGen.Proofs.InlineObjects
import OpenApiGen.Proofs.PlainBodies
import OpenApiGen.Proofs.SpelledReferences

/-!
# Properties that are arrays

The type of an array is that of its items with a pair of brackets behind it, unless the array has an
enumeration of its own, whose literals come first. Where its items are objects written down in
place, it is declared as an array all the same. Its check is that of an array in every case.
-/

namespace OpenApiGen

namespace TypeExpr

/-- The text of a type ends in a pair of brackets, which is for all of it if the names in the type
are words. -/
structure HasArrayText (type : TypeExpr) : Prop where
  brackets : ∀ depth, ['[', ']'] <:+ (type.text depth).toList
  isArrayType : (∀ name, type.Names name → IsWordName name) →
    ∀ depth, Text.IsArrayType (type.text depth).toList

theorem hasArrayText_array {item : TypeExpr}
    (h : (∀ name, (array item).Names name → IsWordName name) → (array item).Readable) :
    (array item).HasArrayText := by
  refine ⟨fun depth => ?_, fun hnames depth => ?_⟩
  · rw [text]
    exact brackets_suffix_arrayOfText _
  · cases h hnames with
    | array hitem => exact hitem.isArrayType_array depth

theorem names_orNull_iff {type : TypeExpr} {null : Bool} {name : String} :
    (type.orNull null).Names name ↔ type.Names name := by
  cases null with
  | false => exact .rfl
  | true =>
    refine ⟨fun h => ?_, .nullable⟩
    cases h with
    | nullable h => exact h

theorem names_wrapped_iff {isArray null : Bool} {type : TypeExpr} {name : String} :
    (type.wrapped isArray null).Names name ↔ type.Names name := by
  cases isArray with
  | false => exact names_orNull_iff
  | true =>
    refine ⟨fun h => ?_, fun h => .item (names_orNull_iff.mpr h)⟩
    cases h with
    | item h => exact names_orNull_iff.mp h

theorem Readable.orNull {type : TypeExpr} (h : type.Readable) (null : Bool) :
    (type.orNull null).Readable := by
  cases null with
  | false => exact h
  | true => exact .nullable h

theorem Readable.wrapped {type : TypeExpr} (h : type.Readable) (isArray null : Bool) :
    (type.wrapped isArray null).Readable := by
  cases isArray with
  | false => exact h.orNull null
  | true => exact .array (h.orNull null)

theorem readable_ofKind (kind : SchemaKind) (format : Option String) (null : Bool) :
    ((ofKind kind format).orNull null).Readable := by
  have hkind : (ofKind kind format).Readable := by
    unfold ofKind
    cases kind with
    | string =>
      dsimp only
      split
      · exact .date
      · exact .string
    | number => exact .number
    | integer => exact .number
    | boolean => exact .boolean
    | object => exact .object
    | array => exact .array .any
    | reference => exact .any
    | unknown => exact .any
  exact hkind.orNull null

end TypeExpr

namespace Schema

/-- By recursion on the items: a type with words as its names is readable. -/
theorem readable_typeExpr (schema : Schema)
    (hnames : ∀ name, schema.typeExpr.Names name → IsWordName name) :
    schema.typeExpr.Readable := by
  cases hr : schema.reference with
  | some reference =>
    have hword := hnames _ ((names_typeExpr_of_reference hr).mpr rfl)
    rw [typeExpr_of_reference hr]
    exact (TypeExpr.Readable.named hword).orNull _
  | none =>
    cases hl : schema.literals? with
    | some values =>
      rw [typeExpr_of_literals hr hl]
      exact .literals (ne_nil_of_literals hl)
    | none =>
      by_cases hk : schema.kind = .array
      · cases hi : schema.items with
        | none =>
          rw [typeExpr_of_array hl hk, hi]
          exact .array .any
        | some items =>
          rw [typeExpr_of_array hl hk, hi] at hnames ⊢
          have hlt := sizeOf_items_lt hi
          exact .array (readable_typeExpr items fun name hname => hnames name (.item hname))
      · rw [typeExpr_of_kind hr hl hk]
        exact TypeExpr.readable_ofKind _ _ _
termination_by sizeOf schema

end Schema

namespace Entity

variable {doc : Document} {policy : ReferencePolicy} {name place : String} {required : Bool}
  {schema : Schema} {p : EntityProperty}

theorem readable_type_of_flattenProperty
    (h : (flattenProperty doc policy name place required schema).outcome = .ok p)
    (hnames : ∀ name, p.type.Names name → IsWordName name) : p.type.Readable := by
  rcases type_and_reference_of_flattenProperty h with
    ⟨-, htype, -⟩ | ⟨-, -, -, -, ⟨-, htype⟩ | ⟨-, htype⟩⟩
  · rw [htype] at hnames ⊢
    exact schema.readable_typeExpr hnames
  · rw [htype]
    exact .any
  · rw [htype]
    exact .array .any

end Entity

namespace EntityProperty

theorem Within.trans {a b c : EntityProperty} (h : Within a b) (h' : Within b c) : Within a c := by
  induction h' with
  | self => exact h
  | nested hq _ ih => exact .nested hq ih

theorem nestedFields_eq_map (ps : List EntityProperty) :
    nestedFields ps =
      ps.map fun p => (Naming.propertyKey p.name, !p.required, p.declaredType) := by
  induction ps with
  | nil => rfl
  | cons p ps ih => rw [nestedFields, ih, List.map_cons]

theorem declaredType_of_nested_eq_nil {p : EntityProperty} (h : p.nested = []) :
    p.declaredType = p.type := by
  cases p
  rw [declaredType, if_pos (by simpa using h)]

/-- What holds of a property as soon as it holds of those that are nested in it, holds of all. -/
theorem nested_induction {motive : EntityProperty → Prop}
    (step : ∀ p : EntityProperty, (∀ q ∈ p.nested, motive q) → motive p) (p : EntityProperty) :
    motive p :=
  step p fun q hq =>
    have hlt : sizeOf q < sizeOf p := by
      cases p with
      | mk =>
        have hmem := List.sizeOf_lt_of_mem hq
        dsimp only at hmem
        simp only [mk.sizeOf_spec]
        omega
    nested_induction step q
termination_by sizeOf p

/-- Where all types inside of a property are readable, its declared type is. -/
theorem readable_declaredType (p : EntityProperty)
    (h : ∀ part, Within part p → (∀ name, part.type.Names name → IsWordName name) →
      part.type.Readable)
    (hnames : ∀ name, p.declaredType.Names name → IsWordName name) : p.declaredType.Readable := by
  induction p using nested_induction with
  | step p ih =>
    by_cases hn : p.nested = []
    · rw [declaredType_of_nested_eq_nil hn] at hnames ⊢
      exact h p .self hnames
    · rw [declaredType_of_nested hn] at hnames ⊢
      have hrecord : (TypeExpr.record (nestedFields p.nested)).Readable := by
        rw [nestedFields_eq_map] at hnames ⊢
        refine .record (fun field hf => ?_) fun field hf => ?_
        · obtain ⟨q, -, rfl⟩ := List.mem_map.mp hf
          exact ⟨q.name, rfl⟩
        · obtain ⟨q, hq, rfl⟩ := List.mem_map.mp hf
          refine ih q hq (fun part hw => h part (.nested hq hw)) fun name hname => ?_
          exact hnames name (TypeExpr.names_wrapped_iff.mpr (.field hf hname))
      exact hrecord.wrapped _ _

end EntityProperty

/-- The enumeration of an array, which comes before the types of its items where nothing that these
refer to is lost. -/
def Schema.Enumerates (doc : Document) (schema : Schema) (values : List Json) : Prop :=
  schema.literals? = some values ∧ ∀ reference ∈ schema.lookedUp, Entity.resolves doc reference

/-- How a property that is an array is typed and declared, by the schema that it comes from. -/
structure EntityProperty.ReadsAsArray (doc : Document) (schema : Schema) (p : EntityProperty) :
    Prop where
  kind : schema.kind = .array
  enumerated : ∀ values, schema.Enumerates doc values →
    p.type = .literals values ∧ ∀ depth, ¬Text.IsArrayType (p.type.text depth).toList
  typed : (∀ values, ¬schema.Enumerates doc values) → p.type.HasArrayText
  declared : (∀ values, ¬schema.Enumerates doc values) ∨ p.nested ≠ [] →
    p.declaredType.HasArrayText
  kept : p.nested = [] → p.declaredType = p.type

namespace Entity

variable {doc : Document} {policy : ReferencePolicy}

/-- The type of an array is that of its items, or the literals of its own enumeration. -/
theorem type_of_array {name place : String} {required : Bool} {schema : Schema} {p : EntityProperty}
    (h : (flattenProperty doc policy name place required schema).outcome = .ok p)
    (hk : schema.kind = .array) :
    (∃ values, schema.Enumerates doc values ∧ p.type = .literals values) ∨
      (∀ values, ¬schema.Enumerates doc values) ∧ ∃ item, p.type = .array item := by
  rcases type_and_reference_of_flattenProperty h with
    ⟨hall, htype, -⟩ | ⟨reference, hmem, hlost, -, hcases⟩
  · cases hl : schema.literals? with
    | some values =>
      have hr : schema.reference = none := Schema.reference_eq_none (by simp [hk])
      exact .inl ⟨values, ⟨hl, hall⟩, htype.trans (Schema.typeExpr_of_literals hr hl)⟩
    | none =>
      refine .inr ⟨fun values hvalues => ?_, _, htype.trans (Schema.typeExpr_of_array hl hk)⟩
      cases hl.symm.trans hvalues.1
  · refine .inr ⟨fun values hvalues => hlost (hvalues.2 reference hmem), .any, ?_⟩
    exact (hcases.resolve_left fun hother => hother.1 hk).2

/-- An array is typed and declared so as soon as the types inside of the property, which are those of
other schemas, are readable. -/
theorem readsAsArray_of_flattenProperty {name place : String} {required : Bool} {schema : Schema}
    {p : EntityProperty}
    (h : (flattenProperty doc policy name place required schema).outcome = .ok p)
    (ha : p.isArray)
    (hparts : ∀ part, EntityProperty.Within part p →
      (∀ name, part.type.Names name → IsWordName name) → part.type.Readable) :
    p.ReadsAsArray doc schema := by
  have hk : schema.kind = .array := by
    rw [recorded_of_flattenProperty h] at ha
    simpa [recordProperty] using ha
  have htyped : (∀ values, ¬schema.Enumerates doc values) → p.type.HasArrayText := by
    intro hnone
    rcases type_of_array h hk with ⟨values, hvalues, -⟩ | ⟨-, item, htype⟩
    · exact absurd hvalues (hnone values)
    · have hreadable := hparts p .self
      rw [htype] at hreadable ⊢
      exact TypeExpr.hasArrayText_array hreadable
  refine ⟨hk, fun values hvalues => ?_, htyped, fun hcases => ?_,
    EntityProperty.declaredType_of_nested_eq_nil⟩
  · rcases type_of_array h hk with ⟨others, hothers, htype⟩ | ⟨hnone, -⟩
    · cases hvalues.1.symm.trans hothers.1
      refine ⟨htype, fun depth => ?_⟩
      rw [htype, TypeExpr.text]
      exact TypeExpr.not_isArrayType_union _
    · exact absurd hvalues (hnone values)
  · by_cases hn : p.nested = []
    · rw [EntityProperty.declaredType_of_nested_eq_nil hn]
      exact htyped (hcases.resolve_right fun hnested => hnested hn)
    · -- the fields of the items make an array, an enumeration notwithstanding
      have hreadable := p.readable_declaredType hparts
      rw [EntityProperty.declaredType_of_nested hn, ha] at hreadable ⊢
      exact TypeExpr.hasArrayText_array hreadable

end Entity

namespace EntityProperty

/-- The checks for a kind take no argument or an empty object. -/
theorem exists_of_mem_kindValidation {p : EntityProperty} {d : Decorator}
    (h : d ∈ p.kindValidation) :
    ∃ name ∈ ["IsString", "IsEmail", "IsDate", "IsNumber", "IsBoolean"],
      d = p.forEach name [] ∨ d = p.forEach name ["\x7b\x7d"] := by
  unfold kindValidation at h
  split at h
  · rcases List.mem_cons.mp h with rfl | h
    · exact ⟨"IsString", by simp, .inl rfl⟩
    · split at h
      · exact ⟨"IsEmail", by simp, .inr (List.mem_singleton.mp h)⟩
      · exact ⟨"IsDate", by simp, .inl (List.mem_singleton.mp h)⟩
      · exact ⟨"IsDate", by simp, .inl (List.mem_singleton.mp h)⟩
      · cases h
  · exact ⟨"IsNumber", by simp, .inr (List.mem_singleton.mp h)⟩
  · exact ⟨"IsNumber", by simp, .inr (List.mem_singleton.mp h)⟩
  · exact ⟨"IsBoolean", by simp, .inl (List.mem_singleton.mp h)⟩
  · cases h

theorem name_of_mem_kindValidation {p : EntityProperty} {d : Decorator}
    (h : d ∈ p.kindValidation) :
    d.name ∈ ["IsString", "IsEmail", "IsDate", "IsNumber", "IsBoolean"] := by
  obtain ⟨name, hname, rfl | rfl⟩ := exists_of_mem_kindValidation h
  · exact hname
  · exact hname

theorem mem_validation_iff {p : EntityProperty} {d : Decorator} : d ∈ p.validation ↔
    d = ⟨if p.required then "IsNotEmpty" else "IsOptional", []⟩ ∨ d ∈ p.kindValidation ∨
      (p.isArray ∧ d = ⟨"IsArray", []⟩) ∨
        (p.literals ≠ [] ∧ d = p.forEach "IsEnum" [literalList p.literals]) := by
  have harray : d ∈ (if p.isArray then [⟨"IsArray", []⟩] else [] : List Decorator) ↔
      p.isArray ∧ d = ⟨"IsArray", []⟩ := by
    cases p.isArray <;> simp
  have hliterals : d ∈ (if p.literals.isEmpty then []
        else [p.forEach "IsEnum" [literalList p.literals]]) ↔
      p.literals ≠ [] ∧ d = p.forEach "IsEnum" [literalList p.literals] := by
    cases p.literals <;> simp
  rw [validation, List.mem_append, List.mem_append, List.mem_cons, harray, hliterals, or_assoc,
    or_assoc]

/-- Of the checks of a property, only that for arrays is called so. -/
theorem isArray_mem_validation_iff (p : EntityProperty) :
    ⟨"IsArray", []⟩ ∈ p.validation ↔ p.isArray := by
  rw [mem_validation_iff]
  constructor
  · rintro (hrequired | hkind | ⟨harray, -⟩ | ⟨-, henum⟩)
    · split at hrequired <;> simp at hrequired
    · exact absurd (name_of_mem_kindValidation hkind) (by decide)
    · exact harray
    · simp [forEach] at henum
  · exact fun harray => .inr (.inr (.inl ⟨harray, rfl⟩))

end EntityProperty

namespace EntityMember

theorem isArray_mem_decorators_iff (typeOrm validated : Bool) (p : EntityProperty) :
    ⟨"IsArray", []⟩ ∈ (ofProperty typeOrm validated p).decorators ↔ validated ∧ p.isArray := by
  have hcolumn : (⟨"IsArray", []⟩ : Decorator) ≠ p.column := by
    unfold EntityProperty.column
    split <;> simp
  rw [ofProperty, List.mem_append, or_iff_right]
  · cases validated with
    | false => simp
    | true => simpa using p.isArray_mem_validation_iff
  · cases typeOrm with
    | false => simp
    | true => simpa using hcolumn

/-- Each decorator of a member has a line in its text. -/
theorem decoratorLine_isInfix {m : EntityMember} {d : Decorator} (h : d ∈ m.decorators) :
    (EntityProperty.decoratorLine d).toList <:+: m.text.toList := by
  obtain ⟨before, after, hsplit⟩ := List.append_of_mem h
  have hlines : (String.join (m.decorators.map EntityProperty.decoratorLine)).toList =
      (String.join (before.map EntityProperty.decoratorLine)).toList
        ++ (EntityProperty.decoratorLine d).toList
        ++ (String.join (after.map EntityProperty.decoratorLine)).toList := by
    rw [hsplit, List.map_append, List.map_cons, String.join_append, String.join_cons,
      String.toList_append, String.toList_append, List.append_assoc]
  have hinfix : (EntityProperty.decoratorLine d).toList <:+:
      (String.join (m.decorators.map EntityProperty.decoratorLine)).toList := by
    rw [hlines]
    exact List.infix_append ..
  rw [text, String.toList_append, String.toList_append]
  exact hinfix.trans (List.infix_append ..)

end EntityMember

namespace Entity

variable {entities : List Entity} {entity : Entity} {top : EntityProperty}

/-- A property that is an array, at any depth, has a type that is read as an array type unless it
has an enumeration of its own, and is declared with such a type unless, moreover, nothing is nested
in it. A property of the entity itself is checked to be an array, where checks are asked for, exactly
if it is one. -/
theorem array_properties (h : (extract doc policy).outcome = .ok entities) (he : entity ∈ entities)
    (htop : top ∈ entity.properties) (options : EntityOptions) :
    (∀ p, EntityProperty.Within p top → p.isArray →
      ∃ entry ∈ doc.components.schemas, entry.1 = entity.schemaName ∧
        ∃ place schema, Schema.StandsAt entry.1 entry.2.properties place schema ∧
          p.ReadsAsArray doc schema) ∧
      ∃ member ∈ (EntityFile.ofEntity options entity).members,
        member.key = Naming.propertyKey top.name ∧ member.type = top.declaredType ∧
          (⟨"IsArray", []⟩ ∈ member.decorators ↔
            (options.useClasses ∧ options.includeValidation) ∧ top.isArray) ∧
          (options.useClasses → options.includeValidation → top.isArray →
            "  @IsArray()\n".toList <:+: member.text.toList) := by
  constructor
  · intro p hw ha
    obtain ⟨entry, hentry, hkey, place, name, required, schema, hstands, hflat⟩ :=
      exists_place h he htop hw
    refine ⟨entry, hentry, hkey, place, schema, hstands,
      readsAsArray_of_flattenProperty hflat ha fun part hpart => ?_⟩
    obtain ⟨_, -, -, _, _, _, _, -, hinner⟩ := exists_place h he htop (hpart.trans hw)
    exact readable_type_of_flattenProperty hinner
  · have hiff := EntityMember.isArray_mem_decorators_iff
      (options.useClasses && options.includeTypeOrm)
      (options.useClasses && options.includeValidation) top
    rw [Bool.and_eq_true] at hiff
    refine ⟨_, List.mem_map.mpr ⟨top, htop, rfl⟩, rfl, rfl, hiff, fun hclass hvalid ha => ?_⟩
    have hline : EntityProperty.decoratorLine ⟨"IsArray", []⟩ = "  @IsArray()\n" := by decide
    rw [← hline]
    exact EntityMember.decoratorLine_isInfix (hiff.mpr ⟨⟨hclass, hvalid⟩, ha⟩)

/-- Labels of an order, which are texts. -/
def tagsSchema : Schema where
  type := some (.single "array")
  items := some { type := some (.single "string"), enumeration := some [.string "a", .string "b"] }

def taggedOrder : Document := .ofKeys [] [("OrderEntity", { properties := [("tags", tagsSchema)] })]

theorem array_properties_tags :
    ∃ entities, (extract taggedOrder .error).outcome = .ok entities ∧
      ∃ entity ∈ entities, entity.schemaName = "OrderEntity" ∧ ∃ p ∈ entity.properties,
        EntityProperty.Within p p ∧ p.isArray ∧ p.type.HasArrayText ∧
          p.declaredType.HasArrayText ∧
          ∃ member ∈ (EntityFile.ofEntity { includeValidation := true } entity).members,
            member.key = "tags" ∧ ⟨"IsArray", []⟩ ∈ member.decorators := by
  have hextract : (extract taggedOrder .error).outcome.map
      (List.map fun entity =>
        (entity.schemaName, entity.properties.map fun p => (p.name, p.isArray))) =
      .ok [("OrderEntity", [("tags", true)])] := by
    decide +kernel
  obtain ⟨entities, h, entity, he, hentity⟩ :=
    exists_mem_of_map_eq_ok hextract (List.mem_cons_self ..)
  obtain ⟨hname, hproperties⟩ := Prod.mk.inj hentity
  obtain ⟨p, hp, hpair⟩ := List.mem_map.mp (hproperties ▸ List.mem_singleton.mpr rfl)
  obtain ⟨hkey, ha⟩ := Prod.mk.inj hpair
  obtain ⟨hparts, member, hmember, hkeyed, -, hchecked, -⟩ :=
    array_properties h he hp { includeValidation := true }
  obtain ⟨entry, hentry, hfirst, place, schema, hstands, hreads⟩ := hparts p .self ha
  have hschema : schema = tagsSchema := by
    have hentryEq : entry = ("OrderEntity", { properties := [("tags", tagsSchema)] }) := by
      rw [hname] at hfirst
      simpa [taggedOrder, Document.ofKeys, hfirst, Prod.ext_iff] using hentry
    rw [hentryEq] at hstands
    have hall : Schema.places "OrderEntity" [("tags", tagsSchema)] =
        [("OrderEntity.tags", tagsSchema)] := rfl
    have hplace := Schema.mem_places_of_standsAt hstands
    rw [hall] at hplace
    exact congrArg Prod.snd (List.mem_singleton.mp hplace)
  have hnone : ∀ values, ¬schema.Enumerates taggedOrder values := by
    rintro values ⟨hliterals, -⟩
    rw [hschema] at hliterals
    cases hliterals
  refine ⟨entities, h, entity, he, hname, p, hp, .self, ha, hreads.typed hnone,
    hreads.declared (.inl hnone), member, hmember, ?_, hchecked.mpr ⟨⟨rfl, rfl⟩, ha⟩⟩
  rw [hkeyed, hkey]
  decide

/-- Things of a kind whose name has a bar in it. -/
def barredItems : Schema where
  type := some (.single "array")
  items := some { reference := some "#/components/schemas/A|B" }

/-- An object with an array in it. -/
def taggedDetails : Schema where
  properties := [("tags", { type := some (.single "array") })]

def oddOrder : Document :=
  .ofKeys [] [
    ("OrderEntity", { properties :=
      [("pair", Schema.allowedPairs), ("kinds", barredItems), ("details", taggedDetails)] }),
    ("A|B", {})]

/-- The first property is an array, and its type is not; the type of the second one ends in a pair
of brackets that is for a part of it; what is nested in the third one is an array without a check. -/
theorem array_without_brackets :
    ∃ entities, (extract oddOrder .error).outcome = .ok entities ∧
      ∃ entity ∈ entities, entity.schemaName = "OrderEntity" ∧
        (∃ p ∈ entity.properties, p.isArray ∧
          p.type.text 1 = "[\"a\",\"b\"] | [\"b\",\"a\"]" ∧
          p.declaredType.text 1 = "[\"a\",\"b\"] | [\"b\",\"a\"]" ∧
          ¬['[', ']'] <:+ (p.type.text 1).toList) ∧
        (∃ p ∈ entity.properties, p.isArray ∧ p.type.text 1 = "A|B[]" ∧
          ¬Text.IsArrayType (p.type.text 1).toList) ∧
        ∃ top ∈ entity.properties, ∃ p ∈ top.nested, p.isArray ∧
          ⟨"IsArray", []⟩ ∉ (EntityMember.ofProperty true true top).decorators := by
  have hextract : (extract oddOrder .error).outcome.map
      (List.map fun entity => (entity.schemaName, entity.properties.map fun p =>
        (p.isArray :: p.nested.map EntityProperty.isArray,
          [p.type.text 1, p.declaredType.text 1]))) =
      .ok [("OrderEntity",
        [([true], ["[\"a\",\"b\"] | [\"b\",\"a\"]", "[\"a\",\"b\"] | [\"b\",\"a\"]"]),
          ([true], ["A|B[]", "A|B[]"]),
          ([false, true], ["object", "\x7b\n    tags?: any[];\n  \x7d"])])] := by
    decide +kernel
  obtain ⟨entities, h, entity, he, hentity⟩ :=
    exists_mem_of_map_eq_ok hextract (List.mem_cons_self ..)
  obtain ⟨hname, hproperties⟩ := Prod.mk.inj hentity
  simp only [List.map_eq_cons_iff, List.map_eq_nil_iff, Prod.mk.injEq, List.cons.injEq,
    and_true] at hproperties
  obtain ⟨pair, _, hall, ⟨⟨hpairArray, -⟩, hpairType, hpairDeclared⟩, kinds, _, rfl,
    ⟨⟨hkindsArray, -⟩, hkindsType, -⟩, details, _, rfl, ⟨⟨hdetailsArray, hnested⟩, -⟩, rfl⟩ :=
    hproperties
  refine ⟨entities, h, entity, he, hname,
    ⟨pair, by simp [hall], hpairArray, hpairType, hpairDeclared, ?_⟩,
    ⟨kinds, by simp [hall], hkindsArray, hkindsType, ?_⟩, details, by simp [hall], ?_⟩
  · rw [hpairType]
    decide
  · rw [hkindsType]
    rintro ⟨operand, -, hoperand, htext⟩
    have hfront : "A|B[]".toList = "A|B".toList ++ ['[', ']'] := by decide
    rw [hfront, List.append_left_inj] at htext
    rw [← htext] at hoperand
    cases hoperand
  · obtain ⟨p, _, hparts, ha, -⟩ := hnested
    refine ⟨p, by simp [hparts], ha, fun hchecked => ?_⟩
    rw [EntityMember.isArray_mem_decorators_iff, hdetailsArray] at hchecked
    exact absurd hchecked.2 (by decide)

end Entity
end OpenApiGen
