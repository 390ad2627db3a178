import OpenApiGen.EntityFile
import OpenApiGen.Proofs.SchemaProjections
import OpenApiGen.Proofs.TypeTexts

/-!
# Objects that are spelled out

The type of a property with an object written down in place has the word `object` in it, and the
type under which the property is declared has the fields of the object in place of this word. Of an
array whose items may be null the declared type does not tell that they may.
-/

namespace OpenApiGen

namespace Text

/-- A word stands in a text once, between these two parts. -/
structure Encloses (front word back text : List Char) : Prop where
  eq : text = front ++ word ++ back
  only : ∀ start ending, text = start ++ word ++ ending → start = front

/-- Looking at every place of a text tells where a word stands in it. -/
theorem encloses_of_places {front word back text : List Char} (heq : text = front ++ word ++ back)
    (h : ∀ n ≤ text.length, word.isPrefixOf (text.drop n) → n = front.length) :
    Encloses front word back text := by
  refine ⟨heq, fun start ending hother => ?_⟩
  have hlength : start.length = front.length := by
    refine h start.length (by simp [hother]) ?_
    rw [hother, List.append_assoc, List.drop_left]
    exact List.isPrefixOf_iff_prefix.mpr (List.prefix_append ..)
  rw [heq, List.append_assoc, List.append_assoc] at hother
  exact (List.append_inj hother hlength.symm).1.symm

theorem Encloses.unique {front word back text start ending : List Char}
    (h : Encloses front word back text) (h' : Encloses start word ending text) :
    start = front ∧ ending = back := by
  have hstart := h.only start ending h'.eq
  have heq := h'.eq
  rw [hstart, h.eq, List.append_cancel_left_eq] at heq
  exact ⟨hstart, heq.symm⟩

end Text

namespace TypeExpr

/-- A type, or arrays of it, where the type may be null. -/
def wrapped (isArray null : Bool) (type : TypeExpr) : TypeExpr :=
  if isArray then array (type.orNull null) else type.orNull null

/-- What stands in front of a type, and behind it. -/
def wrapping (isArray null : Bool) : String × String :=
  match isArray, null with
  | false, false => ("", "")
  | false, true => ("", " | null")
  | true, false => ("", "[]")
  | true, true => ("(", " | null)[]")

theorem text_wrapped (isArray null : Bool) (type : TypeExpr) (depth : Nat) :
    (type.wrapped isArray null).text depth =
      if isArray then arrayOfText (type.text depth ++ (if null then " | null" else ""))
      else type.text depth ++ (if null then " | null" else "") := by
  cases isArray <;> cases null <;> simp [wrapped, orNull, text]

theorem encloses_object (isArray null : Bool) (depth : Nat) :
    Text.Encloses (wrapping isArray null).1.toList "object".toList (wrapping isArray null).2.toList
      ((object.wrapped isArray null).text depth).toList := by
  rw [text_wrapped, text]
  cases isArray <;> cases null <;> exact Text.encloses_of_places (by decide) (by decide)

/-- The text of a type stands between what comes before and behind it, with parentheses around it
where it has a bar in it and is that of the items of an array. -/
theorem toList_text_wrapped (type : TypeExpr) (isArray null : Bool) (depth : Nat) :
    ∃ literal, (literal = (type.text depth).toList ∨
        literal = '(' :: (type.text depth).toList ++ [')']) ∧
      ((type.wrapped isArray null).text depth).toList =
        (wrapping isArray null).1.toList ++ literal ++ (wrapping isArray null).2.toList := by
  rw [text_wrapped]
  cases isArray with
  | false =>
    refine ⟨_, .inl rfl, ?_⟩
    cases null <;> simp [wrapping]
  | true =>
    cases null with
    | false =>
      by_cases hbar : " | ".toList <:+: (type.text depth).toList
      · refine ⟨_, .inr rfl, ?_⟩
        simpa [wrapping] using toList_arrayOfText_of_bar hbar
      · refine ⟨_, .inl rfl, ?_⟩
        simpa [wrapping] using toList_arrayOfText hbar
    | true =>
      have hbar : " | ".toList <:+: (type.text depth ++ " | null").toList :=
        ⟨(type.text depth).toList, "null".toList, by simp⟩
      refine ⟨_, .inl rfl, ?_⟩
      simpa [wrapping] using toList_arrayOfText_of_bar hbar

theorem getLast?_text_record (fields : List (String × Bool × TypeExpr)) (depth : Nat) :
    ((record fields).text depth).toList.getLast? = some '\x7d' := by
  rw [text, String.toList_append, List.getLast?_append]
  rfl

/-- An array of objects that are spelled out does not end like one whose items may be null. -/
theorem not_null_suffix_arrayOfText_record (fields : List (String × Bool × TypeExpr))
    (depth : Nat) : ¬" | null)[]".toList <:+ (arrayOfText ((record fields).text depth)).toList := by
  rintro ⟨start, heq⟩
  have hlast := getLast?_text_record fields depth
  generalize (record fields).text depth = item at heq hlast
  have hends : " | null)[]".toList = " | null".toList ++ [')'] ++ ['[', ']'] := by decide
  rw [hends, ← List.append_assoc, ← List.append_assoc] at heq
  by_cases hbar : " | ".toList <:+: item.toList
  · rw [toList_arrayOfText_of_bar hbar, List.append_left_inj, List.append_left_inj] at heq
    have hitem := congrArg List.getLast? heq
    rw [List.getLast?_append, List.getLast?_cons, hlast] at hitem
    cases hitem
  · rw [toList_arrayOfText hbar, List.append_left_inj] at heq
    rw [← heq, List.getLast?_concat] at hlast
    cases hlast

end TypeExpr

namespace EntityProperty

/-- The declared type of a property reads as its type does, with the fields of what is nested in the
property where the one word `object` stands. There may be parentheses around them. -/
def SpelledOut (p : EntityProperty) (depth : Nat) : Prop :=
  ∃ front back literal, Text.Encloses front "object".toList back (p.type.text depth).toList ∧
    (literal = ((TypeExpr.record (nestedFields p.nested)).text depth).toList ∨
      literal = '(' :: ((TypeExpr.record (nestedFields p.nested)).text depth).toList ++ [')']) ∧
    (p.declaredType.text depth).toList = front ++ literal ++ back

/-- What is known of a property with an object written down in place: of the items of an array, only
the type of the property tells whether they may be null. -/
structure Inlines (p : EntityProperty) (object : Schema) : Prop where
  type : p.type = TypeExpr.object.wrapped p.isArray object.isNullable
  declared : p.declaredType =
    (TypeExpr.record (nestedFields p.nested)).wrapped p.isArray (object.isNullable && !p.isArray)
  spelledOut : ∀ depth, p.SpelledOut depth ↔ (p.isArray → ¬object.isNullable)

theorem declaredType_of_nested {p : EntityProperty} (h : p.nested ≠ []) :
    p.declaredType =
      (TypeExpr.record (nestedFields p.nested)).wrapped p.isArray (p.nullable && !p.isArray) := by
  cases p with
  | mk name type baseKind required nullable format description isArray isObject reference nested =>
    replace h : nested.isEmpty = false := by simpa using h
    rw [declaredType, if_neg (by simp [h])]
    cases isArray <;> simp [TypeExpr.wrapped, TypeExpr.orNull]

/-- Where the types are known, what the declared one reads like depends on the marks for null. -/
theorem spelledOut_iff {p : EntityProperty} {null : Bool}
    (ht : p.type = TypeExpr.object.wrapped p.isArray null)
    (hd : p.declaredType =
      (TypeExpr.record (nestedFields p.nested)).wrapped p.isArray (null && !p.isArray))
    (depth : Nat) : p.SpelledOut depth ↔ (p.isArray → ¬null) := by
  have hencloses := TypeExpr.encloses_object p.isArray null depth
  rw [← ht] at hencloses
  constructor
  · rintro ⟨front, back, literal, hother, -, htext⟩ harray hnull
    obtain ⟨-, rfl⟩ := hencloses.unique hother
    rw [hd, harray, hnull, TypeExpr.text_wrapped] at htext
    have hends : front ++ literal ++ " | null)[]".toList =
        (TypeExpr.arrayOfText ((TypeExpr.record (nestedFields p.nested)).text depth)).toList := by
      simpa [TypeExpr.wrapping] using htext.symm
    exact TypeExpr.not_null_suffix_arrayOfText_record (nestedFields p.nested) depth ⟨_, hends⟩
  · intro h
    have hkept : (null && !p.isArray) = null := by
      cases harray : p.isArray with
      | false => simp
      | true => simp [h harray]
    obtain ⟨literal, hliteral, htext⟩ :=
      TypeExpr.toList_text_wrapped (.record (nestedFields p.nested)) p.isArray null depth
    rw [← hkept, ← hd, hkept] at htext
    exact ⟨_, _, literal, hencloses, hliteral, htext⟩

end EntityProperty

namespace Schema

variable {schema : Schema}

theorem typeExpr_of_object (ho : schema.kind = .object) (hl : schema.literals? = none) :
    schema.typeExpr = TypeExpr.object.orNull schema.isNullable := by
  have hr : schema.reference = none := reference_eq_none (by simp [ho])
  rw [typeExpr_of_kind hr hl (by simp [ho]), ho, TypeExpr.ofKind]

/-- The object that is written down in place of a schema: the schema itself, or its items. -/
def Holds (schema object : Schema) : Prop :=
  object.kind = .object ∧ (object = schema ∨ schema.kind = .array ∧ schema.items = some object)

theorem Holds.lookedUp_eq_nil {object : Schema} (h : schema.Holds object) :
    schema.lookedUp = [] := by
  obtain ⟨ho, rfl | ⟨ha, hi⟩⟩ := h
  · rw [lookedUp, reference_eq_none (by simp [ho]), element?_of_ne_array (by simp [ho])]
    rfl
  · rw [lookedUp, reference_eq_none (by simp [ha]), element?_of_array ha, hi, Option.bind_some,
      reference_eq_none (by simp [ho])]
    rfl

theorem Holds.typeExpr {object : Schema} (h : schema.Holds object) (hl : schema.literals? = none)
    (he : schema.element?.bind literals? = none) :
    schema.typeExpr = TypeExpr.object.wrapped (schema.kind = .array) object.isNullable := by
  obtain ⟨ho, rfl | ⟨ha, hi⟩⟩ := h
  · rw [typeExpr_of_object ho hl, ho]
    rfl
  · rw [element?_of_array ha, hi, Option.bind_some] at he
    rw [typeExpr_of_array hl ha, hi, Option.map_some, Option.getD_some, typeExpr_of_object ho he,
      ha]
    rfl

end Schema

namespace Entity

variable {doc : Document} {policy : ReferencePolicy}

variable {name place : String} {required : Bool} {schema : Schema} {p : EntityProperty}

/-- A property has no literals if neither its schema nor the items of an array have any. -/
theorem literals_eq_nil_iff
    (h : (flattenProperty doc policy name place required schema).outcome = .ok p) :
    p.literals = [] ↔
      schema.literals? = none ∧ schema.element?.bind Schema.literals? = none := by
  rw [recorded_of_flattenProperty h, recordProperty]
  cases hl : schema.literals? with
  | some values => simpa using Schema.ne_nil_of_literals hl
  | none =>
    cases he : schema.element?.bind Schema.literals? with
    | none => simp
    | some values =>
      obtain ⟨items, -, hvalues⟩ := Option.bind_eq_some_iff.mp he
      simpa using Schema.ne_nil_of_literals hvalues

theorem inlines_of_flattenProperty
    (h : (flattenProperty doc policy name place required schema).outcome = .ok p)
    (hn : p.nested ≠ []) (hl : p.literals = []) :
    ∃ object, schema.Holds object ∧ p.Inlines object := by
  obtain ⟨q, hq⟩ := List.exists_mem_of_ne_nil p.nested hn
  obtain ⟨object, ho, hobject, -⟩ := exists_of_mem_nested h hq
  have hholds : schema.Holds object := ⟨ho, hobject⟩
  obtain ⟨hown, helement⟩ := (literals_eq_nil_iff h).mp hl
  have harray : p.isArray = decide (schema.kind = .array) := by
    rw [recorded_of_flattenProperty h, recordProperty]
  have htype : p.type = TypeExpr.object.wrapped p.isArray object.isNullable := by
    have hall : ∀ reference ∈ schema.lookedUp, resolves doc reference := by
      simp [hholds.lookedUp_eq_nil]
    rw [(type_and_reference_of_resolves h hall).1, hholds.typeExpr hown helement, harray]
  have hdeclared : p.declaredType =
      (TypeExpr.record (EntityProperty.nestedFields p.nested)).wrapped p.isArray
        (object.isNullable && !p.isArray) := by
    rw [EntityProperty.declaredType_of_nested hn]
    congr 1
    have hnullable : p.nullable = schema.isNullable := by
      rw [recorded_of_flattenProperty h, recordProperty]
    rcases hobject with rfl | ⟨ha, -⟩
    · rw [hnullable]
    · simp [harray, ha]
  exact ⟨object, hholds, htype, hdeclared, EntityProperty.spelledOut_iff htype hdeclared⟩

variable {entities : List Entity} {entity : Entity} {top : EntityProperty}

/-- Every property that has properties nested in it and no literals, at any depth, has an object
written down in place, and is declared with the fields of this object in place of the word for it.
Arrays and marks for null stay as they are, unless items of an array may be null. -/
theorem objects_spelled_out (h : (extract doc policy).outcome = .ok entities)
    (he : entity ∈ entities) (htop : top ∈ entity.properties)
    (hw : EntityProperty.Within p top) (hn : p.nested ≠ []) (hl : p.literals = []) :
    ∃ entry ∈ doc.components.schemas, entry.1 = entity.schemaName ∧
      ∃ place schema object, Schema.StandsAt entry.1 entry.2.properties place schema ∧
        schema.Holds object ∧ p.Inlines object := by
  obtain ⟨entry, hentry, hkey, place, name, required, schema, hstands, hflat⟩ :=
    exists_place h he htop hw
  obtain ⟨object, hholds, hinlines⟩ := inlines_of_flattenProperty hflat hn hl
  exact ⟨entry, hentry, hkey, place, schema, object, hstands, hholds, hinlines⟩

/-- A line of an order. -/
def lineSchema (nullable : Bool) : Schema where
  type := some (.single "object")
  nullable := nullable
  properties := [("name", { type := some (.single "string") })]

/-- The lines of an order, each of which may be null or not. -/
def linesSchema (nullable : Bool) : Schema where
  type := some (.single "array")
  items := some (lineSchema nullable)

def ordersOfLines (nullable : Bool) : Document :=
  .ofKeys [] [("OrderEntity", { properties := [("lines", linesSchema nullable)] })]

theorem objects_spelled_out_lines :
    ∃ entities, (extract (ordersOfLines false) .error).outcome = .ok entities ∧
      ∃ entity ∈ entities, entity.schemaName = "OrderEntity" ∧ ∃ p ∈ entity.properties,
        EntityProperty.Within p p ∧ p.nested ≠ [] ∧ p.literals = [] ∧
          p.Inlines (lineSchema false) ∧ p.SpelledOut 1 := by
  have hextract : (extract (ordersOfLines false) .error).outcome.map
      (List.map fun entity =>
        (entity.schemaName, entity.properties.map fun p => (p.nested.length, p.literals.length))) =
      .ok [("OrderEntity", [(1, 0)])] := by
    decide +kernel
  obtain ⟨entities, h, entity, he, hentity⟩ :=
    exists_mem_of_map_eq_ok hextract (List.mem_cons_self ..)
  obtain ⟨hname, hlengths⟩ := Prod.mk.inj hentity
  obtain ⟨p, hp, hpair⟩ := List.mem_map.mp (hlengths ▸ List.mem_singleton.mpr rfl)
  obtain ⟨hnested, hliterals⟩ := Prod.mk.inj hpair
  have hn : p.nested ≠ [] := List.ne_nil_of_length_eq_add_one hnested
  have hl : p.literals = [] := List.eq_nil_of_length_eq_zero hliterals
  obtain ⟨entry, hentry, hkey, place, schema, object, hstands, hholds, hinlines⟩ :=
    objects_spelled_out h he hp .self hn hl
  have hfirst : entry = ("OrderEntity", { properties := [("lines", linesSchema false)] }) := by
    rw [hname] at hkey
    simpa [ordersOfLines, Document.ofKeys, hkey, Prod.ext_iff] using hentry
  have hplaces : schema = linesSchema false ∨ schema = { type := some (.single "string") } := by
    rw [hfirst] at hstands
    have hplace := Schema.mem_places_of_standsAt hstands
    have hall : Schema.places "OrderEntity" [("lines", linesSchema false)] =
        [("OrderEntity.lines", linesSchema false),
          ("OrderEntity.lines.name", { type := some (.single "string") })] := rfl
    rw [hall] at hplace
    simpa using List.mem_map_of_mem (f := Prod.snd) hplace
  obtain ⟨hobject, hin⟩ := hholds
  have hlines : object = lineSchema false := by
    rcases hplaces with rfl | rfl
    · rcases hin with rfl | ⟨-, hitems⟩
      · cases hobject
      · exact (Option.some.inj hitems).symm
    · rcases hin with rfl | ⟨harray, -⟩
      · cases hobject
      · cases harray
  rw [hlines] at hinlines
  exact ⟨entities, h, entity, he, hname, p, hp, .self, hn, hl, hinlines,
    (hinlines.spelledOut 1).mpr fun _ => by decide⟩

/-- The type says that a line may be null, and the declared type does not. -/
theorem null_of_items_dropped :
    ∃ entities, (extract (ordersOfLines true) .error).outcome = .ok entities ∧
      ∃ entity ∈ entities, entity.schemaName = "OrderEntity" ∧ ∃ p ∈ entity.properties,
        p.nested ≠ [] ∧ p.literals = [] ∧ p.type.text 1 = "(object | null)[]" ∧
          p.declaredType.text 1 = "\x7b\n    name?: string;\n  \x7d[]" ∧ ¬p.SpelledOut 1 := by
  have hextract : (extract (ordersOfLines true) .error).outcome.map
      (List.map fun entity => (entity.schemaName, entity.properties.map fun p =>
        ((p.nested.length, p.literals.length), [p.type.text 1, p.declaredType.text 1]))) =
      .ok [("OrderEntity",
        [((1, 0), ["(object | null)[]", "\x7b\n    name?: string;\n  \x7d[]"])])] := by
    decide +kernel
  obtain ⟨entities, h, entity, he, hentity⟩ :=
    exists_mem_of_map_eq_ok hextract (List.mem_cons_self ..)
  obtain ⟨hname, hfacts⟩ := Prod.mk.inj hentity
  obtain ⟨p, hp, hfact⟩ := List.mem_map.mp (hfacts ▸ List.mem_singleton.mpr rfl)
  simp only [Prod.mk.injEq, List.cons.injEq, and_true] at hfact
  obtain ⟨⟨hnested, hliterals⟩, htype, hdeclared⟩ := hfact
  refine ⟨entities, h, entity, he, hname, p, hp, List.ne_nil_of_length_eq_add_one hnested,
    List.eq_nil_of_length_eq_zero hliterals, htype, hdeclared, ?_⟩
  rintro ⟨front, back, literal, hencloses, -, htext⟩
  have hobject : (TypeExpr.object.wrapped true true).text 1 = "(object | null)[]" := by
    rw [TypeExpr.text_wrapped]
    decide
  have hone := TypeExpr.encloses_object true true 1
  rw [hobject, ← htype] at hone
  obtain ⟨-, rfl⟩ := hone.unique hencloses
  rw [hdeclared] at htext
  have hends : (TypeExpr.wrapping true true).2.toList <:+
      "\x7b\n    name?: string;\n  \x7d[]".toList := htext ▸ List.suffix_append ..
  exact absurd hends (by decide)

end Entity

end OpenApiGen
