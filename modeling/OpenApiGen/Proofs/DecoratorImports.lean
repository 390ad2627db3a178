import OpenApiGen.Proofs.ArrayProperties
import OpenApiGen.Proofs.EntityBindings
import OpenApiGen.Proofs.TextMarks

/-!
# The decorators that an entity file imports

Which decorators a file imports is read off the text of its members, where a name between an at sign
and a parenthesis counts as applied. Whatever is applied is imported. But a text of the document may
hold such a name as well, and then the file imports what it does not use.
-/

namespace OpenApiGen

open Text

namespace Naming

theorem infix_propertyKey_iff {part : List Char} (h : Mark part) (name : String) :
    part <:+: (propertyKey name).toList ↔ part <:+: name.toList := by
  unfold propertyKey
  split
  · rfl
  · exact h.infix_quote_iff name

end Naming

theorem Decorator.infix_text_iff {name : List Char} (h : name.all Char.isAlphanum) {d : Decorator}
    (hd : d.name.toList.all Char.isAlphanum) :
    markChars name <:+: d.text.toList ↔
      name = d.name.toList ∨ StandsIn (markChars name) d.arguments := by
  have hmark := mark_markChars h
  have htext : d.text.toList = markChars d.name.toList ++
      ((", ".intercalate d.arguments).toList ++ [')']) := by
    simp [text, markChars, String.toList_append]
  rw [htext, infix_markChars_append_iff h hd, hmark.drop_back (by decide) (by decide),
    String.toList_intercalate]
  refine or_congr_right ((hmark.infix_intercalate_iff (by decide) (by decide) _).trans ?_)
  simp [StandsIn]

namespace EntityProperty

/-- The strings that the arguments of the column are made from. -/
def columnStrings (p : EntityProperty) : List String :=
  if p.name = primaryKey then []
  else (p.defaultValue.toList ++ p.literals).flatMap Json.strings

/-- The strings of the document in the member for a property. -/
def shownStrings (typeOrm validated : Bool) (p : EntityProperty) : List String :=
  p.description.toList ++ (if typeOrm then p.columnStrings else [])
    ++ (if validated then p.literals.flatMap Json.strings else [])
    ++ p.name :: p.declaredType.strings

section

variable {part : List Char} (h : Mark part)

include h

theorem infix_literalList_iff (values : List Json) :
    part <:+: (literalList values).toList ↔ StandsIn part (values.flatMap Json.strings) := by
  unfold literalList
  rw [String.toList_append, h.drop_back (by decide) (by decide), String.toList_append,
    h.skip (by decide), String.toList_intercalate, List.map_map]
  exact h.infix_texts_iff (by decide) (by decide) values

theorem standsIn_valueOptions_iff (p : EntityProperty) :
    StandsIn part p.valueOptions ↔ StandsIn part (p.defaultValue.toList.flatMap Json.strings) := by
  have hnullable : ¬StandsIn part (if p.nullable then ["nullable: true"] else []) := by
    refine h.not_standsIn ?_
    cases p.nullable <;> decide
  rw [valueOptions, standsIn_append, or_iff_right hnullable, standsIn_map, standsIn_flatMap]
  refine exists_congr fun value => and_congr_right fun _ => ?_
  rw [String.toList_append, h.skip (by decide), h.infix_text_iff]

theorem standsIn_typeOptions_iff (p : EntityProperty) :
    StandsIn part p.typeOptions ↔ StandsIn part (p.literals.flatMap Json.strings) := by
  unfold typeOptions
  split
  · have harray : ¬StandsIn part (if p.isArray then ["array: true"] else []) := by
      refine h.not_standsIn ?_
      cases p.isArray <;> decide
    rw [standsIn_append, or_iff_left harray, standsIn_cons, or_iff_right (h.absent (by decide)),
      standsIn_cons, or_iff_left not_standsIn_nil, String.toList_append, h.skip (by decide),
      infix_literalList_iff h]
  · rename_i hliterals
    have hnil : p.literals = [] := by simpa using hliterals
    rw [hnil]
    refine iff_of_false (h.not_standsIn ?_) not_standsIn_nil
    split
    · decide
    · split <;> decide

theorem standsIn_column_iff (p : EntityProperty) :
    StandsIn part p.column.arguments ↔ StandsIn part p.columnStrings := by
  unfold column columnStrings
  split
  · rfl
  · rw [List.flatMap_append, standsIn_append, ← standsIn_valueOptions_iff h,
      ← standsIn_typeOptions_iff h, ← standsIn_append]
    generalize p.valueOptions ++ p.typeOptions = options
    cases options with
    | nil => rfl
    | cons option options =>
      have hone : StandsIn part ["\x7b " ++ ", ".intercalate (option :: options) ++ " \x7d"] ↔
          part <:+: (", ".intercalate (option :: options)).toList := by
        rw [standsIn_cons, or_iff_left not_standsIn_nil, String.toList_append,
          h.drop_back (by decide) (by decide), String.toList_append, h.skip (by decide)]
      refine hone.trans ?_
      rw [String.toList_intercalate]
      exact (h.infix_intercalate_iff (by decide) (by decide) _).trans (by simp [StandsIn])

theorem standsIn_forEach_iff (p : EntityProperty) (name : String) (arguments : List String) :
    StandsIn part (p.forEach name arguments).arguments ↔ StandsIn part arguments := by
  rw [forEach, standsIn_append]
  refine or_iff_left (h.not_standsIn ?_)
  cases p.isArray <;> decide

theorem standsIn_validation_iff (p : EntityProperty) :
    (∃ d ∈ p.validation, StandsIn part d.arguments) ↔
      StandsIn part (p.literals.flatMap Json.strings) := by
  constructor
  · rintro ⟨d, hd, hpart⟩
    rcases mem_validation_iff.mp hd with rfl | hkind | ⟨-, rfl⟩ | ⟨-, rfl⟩
    · exact absurd hpart not_standsIn_nil
    · obtain ⟨name, -, rfl | rfl⟩ := exists_of_mem_kindValidation hkind
      · exact absurd ((standsIn_forEach_iff h ..).mp hpart) not_standsIn_nil
      · exact absurd ((standsIn_forEach_iff h ..).mp hpart) (h.not_standsIn (by decide))
    · exact absurd hpart not_standsIn_nil
    · simpa [standsIn_forEach_iff h, infix_literalList_iff h] using hpart
  · intro hpart
    have hne : p.literals ≠ [] := by
      intro hnil
      rw [hnil] at hpart
      exact not_standsIn_nil hpart
    refine ⟨_, mem_validation_iff.mpr (.inr (.inr (.inr ⟨hne, rfl⟩))), ?_⟩
    simpa [standsIn_forEach_iff h, infix_literalList_iff h] using hpart

/-- A comment, with what follows. -/
theorem infix_commentText_append_iff (description : String) {back : List Char} :
    part <:+: (commentText description).toList ++ back ↔
      part <:+: description.toList ∨ part <:+: back := by
  unfold commentText
  rw [String.toList_append, String.toList_append, List.append_assoc, List.append_assoc,
    h.skip (by decide), h.infix_join_lines_iff, h.skip (by decide),
    ← h.exists_mem_lines_iff description.toList]
  refine or_congr_left (exists_congr fun line => and_congr_right fun _ => ?_)
  have hline : Respelled line (commentLine line) :=
    respelled_replacePair (by decide) (by decide) (by decide) line
  rw [String.toList_append, h.skip (by decide), String.toList_ofList, hline.infix_iff h]

end

end EntityProperty

namespace EntityFile

theorem isAlphanum_of_mem_decoratorNames :
    ∀ name ∈ decoratorNames, name.toList.all Char.isAlphanum := by
  simp [decoratorNames, typeOrmNames, validationNames]

theorem column_name_mem (p : EntityProperty) : p.column.name ∈ typeOrmNames := by
  unfold EntityProperty.column
  split <;> simp [typeOrmNames]

theorem name_mem_of_mem_validation {p : EntityProperty} {d : Decorator} (h : d ∈ p.validation) :
    d.name ∈ validationNames := by
  rcases EntityProperty.mem_validation_iff.mp h with rfl | hkind | ⟨-, rfl⟩ | ⟨-, rfl⟩
  · cases p.required <;> decide
  · have hkinds : ["IsString", "IsEmail", "IsDate", "IsNumber", "IsBoolean"] ⊆ validationNames := by
      decide
    exact hkinds (EntityProperty.name_of_mem_kindValidation hkind)
  · decide
  · simp [EntityProperty.forEach, validationNames]

end EntityFile

namespace EntityMember

theorem infix_text_iff {part : List Char} (h : Mark part) (m : EntityMember) :
    part <:+: m.text.toList ↔ StandsIn part m.description.toList ∨
      (∃ d ∈ m.decorators, part <:+: d.text.toList) ∨ part <:+: m.key.toList ∨
        StandsIn part m.type.strings := by
  have hline (d : Decorator) : part <:+: ("  " ++ d.text).toList ↔ part <:+: d.text.toList := by
    rw [String.toList_append, h.skip (by decide)]
  have hfield : part <:+: (TypeExpr.fieldLine 1 m.key m.optional (m.type.text 1)).toList ↔
      part <:+: m.key.toList ∨ StandsIn part m.type.strings := by
    have hback := h.infix_fieldLine_append_iff 1 m.key m.optional (m.type.text 1) []
    rwa [List.append_nil, List.infix_nil, or_iff_left h.ne_nil, h.infix_type_iff] at hback
  have hdecorators : part <:+: (String.join (m.decorators.map EntityProperty.decoratorLine)).toList
        ++ (TypeExpr.fieldLine 1 m.key m.optional (m.type.text 1)).toList ↔
      (∃ d ∈ m.decorators, part <:+: d.text.toList) ∨
        part <:+: m.key.toList ∨ StandsIn part m.type.strings := by
    have hends : EntityProperty.decoratorLine = fun d => "  " ++ d.text ++ "\n" := rfl
    rw [← hfield, hends, h.infix_join_lines_iff]
    exact or_congr_left (exists_congr fun d => and_congr_right fun _ => hline d)
  rw [text, String.toList_append, String.toList_append, List.append_assoc, ← hdecorators]
  cases m.description with
  | none => simp
  | some description =>
    refine (EntityProperty.infix_commentText_append_iff h description).trans ?_
    rw [Option.toList_some, standsIn_cons, or_iff_left not_standsIn_nil]

theorem name_of_mem_decorators {typeOrm validated : Bool} {p : EntityProperty} {d : Decorator}
    (h : d ∈ (ofProperty typeOrm validated p).decorators) : d.name ∈ EntityFile.decoratorNames := by
  rw [EntityFile.decoratorNames, List.mem_append]
  rcases List.mem_append.mp h with hcolumn | hvalidation
  · split at hcolumn
    · rw [List.mem_singleton.mp hcolumn]
      exact .inl (EntityFile.column_name_mem p)
    · cases hcolumn
  · split at hvalidation
    · exact .inr (EntityFile.name_mem_of_mem_validation hvalidation)
    · cases hvalidation

theorem standsIn_arguments_iff {part : List Char} (h : Mark part) (typeOrm validated : Bool)
    (p : EntityProperty) :
    (∃ d ∈ (ofProperty typeOrm validated p).decorators, StandsIn part d.arguments) ↔
      StandsIn part ((if typeOrm then p.columnStrings else [])
        ++ (if validated then p.literals.flatMap Json.strings else [])) := by
  have hcolumn : (∃ d ∈ (if typeOrm then [p.column] else []), StandsIn part d.arguments) ↔
      StandsIn part (if typeOrm then p.columnStrings else []) := by
    cases typeOrm with
    | false => simp
    | true => simp [EntityProperty.standsIn_column_iff h]
  have hvalidation : (∃ d ∈ (if validated then p.validation else []), StandsIn part d.arguments) ↔
      StandsIn part (if validated then p.literals.flatMap Json.strings else []) := by
    cases validated with
    | false => simp
    | true => simpa using EntityProperty.standsIn_validation_iff h p
  rw [standsIn_append, ← hcolumn, ← hvalidation]
  simp only [ofProperty, List.mem_append, or_and_right, exists_or]

/-- The member for a property has a mark where a decorator of that name is applied, and where a
string of the document has it. -/
theorem infix_text_ofProperty_iff {name : String} (hname : name.toList.all Char.isAlphanum)
    (typeOrm validated : Bool) (p : EntityProperty) :
    markChars name.toList <:+: (ofProperty typeOrm validated p).text.toList ↔
      (∃ d ∈ (ofProperty typeOrm validated p).decorators, d.name = name) ∨
        StandsIn (markChars name.toList) (p.shownStrings typeOrm validated) := by
  have hmark := mark_markChars hname
  have hdecorators : (∃ d ∈ (ofProperty typeOrm validated p).decorators,
        markChars name.toList <:+: d.text.toList) ↔
      (∃ d ∈ (ofProperty typeOrm validated p).decorators, d.name = name) ∨
        ∃ d ∈ (ofProperty typeOrm validated p).decorators,
          StandsIn (markChars name.toList) d.arguments := by
    rw [← exists_or]
    refine exists_congr fun d => ?_
    rw [← and_or_left]
    refine and_congr_right fun hd => ?_
    have hletters := EntityFile.isAlphanum_of_mem_decoratorNames d.name (name_of_mem_decorators hd)
    rw [Decorator.infix_text_iff hname hletters, String.toList_inj, eq_comm]
  rw [infix_text_iff hmark, hdecorators, standsIn_arguments_iff hmark]
  have hkey := Naming.infix_propertyKey_iff hmark p.name
  simp only [ofProperty, EntityProperty.shownStrings, standsIn_append, standsIn_cons, hkey,
    or_assoc, or_left_comm]

end EntityMember

namespace EntityFile

theorem uses_iff {members : List EntityMember} {name : String} :
    uses members name ↔ ∃ m ∈ members, markChars name.toList <:+: m.text.toList := by
  have hsign : ("@" ++ name ++ "(").toList = markChars name.toList := by
    simp [markChars, String.toList_append]
  simp [uses, List.any_eq_true, occurs_iff, hsign]

theorem mem_localNames_decoratorImports_iff {members : List EntityMember} {typeOrm validated : Bool}
    {name : String} : name ∈ Import.localNames (decoratorImports members typeOrm validated) ↔
      (typeOrm ∧ name ∈ typeOrmNames ∧ (name = "Entity" ∨ uses members name)) ∨
        (validated ∧ name ∈ validationNames ∧ uses members name) := by
  have hentity : name ∈ typeOrmNames.filter (fun n => n == "Entity" || uses members n) ↔
      name ∈ typeOrmNames ∧ (name = "Entity" ∨ uses members name) := by
    simp
  have hused : name ∈ validationNames.filter (uses members) ↔
      name ∈ validationNames ∧ uses members name := by
    simp
  rw [decoratorImports, Import.localNames, List.flatMap_append, List.mem_append, ← hentity, ← hused]
  refine or_congr ?_ ?_
  · cases typeOrm <;> simp [ImportClause.localNames]
  · generalize validationNames.filter (uses members) = used
    cases validated with
    | false => simp
    | true => cases used <;> simp [ImportClause.localNames]

theorem uses_map_ofProperty_iff {name : String} (hname : name.toList.all Char.isAlphanum)
    (typeOrm validated : Bool) (ps : List EntityProperty) :
    uses (ps.map (EntityMember.ofProperty typeOrm validated)) name ↔
      (∃ p ∈ ps, (typeOrm ∧ p.column.name = name) ∨
        (validated ∧ ∃ d ∈ p.validation, d.name = name)) ∨
      ∃ p ∈ ps, StandsIn (markChars name.toList) (p.shownStrings typeOrm validated) := by
  rw [uses_iff, ← exists_or]
  simp only [List.mem_map, exists_exists_and_eq_and, ← and_or_left]
  refine exists_congr fun p => and_congr_right fun _ => ?_
  rw [EntityMember.infix_text_ofProperty_iff hname]
  refine or_congr_left ?_
  simp only [EntityMember.ofProperty, List.mem_append, or_and_right, exists_or]
  cases typeOrm <;> cases validated <;> simp

/-- A decorator is applied to the class, or to a property by one of the two rules. -/
inductive Applies (options : EntityOptions) (entity : Entity) (name : String) : Prop
  | table (hclass : options.useClasses) (h : options.includeTypeOrm) (hname : "Entity" = name)
  | column (hclass : options.useClasses) (h : options.includeTypeOrm) {p : EntityProperty}
      (hp : p ∈ entity.properties) (hname : p.column.name = name)
  | validation (hclass : options.useClasses) (h : options.includeValidation) {p : EntityProperty}
      (hp : p ∈ entity.properties) {d : Decorator} (hd : d ∈ p.validation) (hname : d.name = name)

/-- The decorators that files have imports for under their options. -/
def offered (options : EntityOptions) : List String :=
  (if options.useClasses && options.includeTypeOrm then typeOrmNames else [])
    ++ (if options.useClasses && options.includeValidation then validationNames else [])

theorem mem_offered_iff {options : EntityOptions} {name : String} : name ∈ offered options ↔
    (options.useClasses && options.includeTypeOrm) ∧ name ∈ typeOrmNames ∨
      (options.useClasses && options.includeValidation) ∧ name ∈ validationNames := by
  rw [offered, List.mem_append]
  split <;> split <;> simp [*]

theorem isAlphanum_of_mem_offered {options : EntityOptions} {name : String}
    (h : name ∈ offered options) : name.toList.all Char.isAlphanum := by
  refine isAlphanum_of_mem_decoratorNames name (List.mem_append.mpr ?_)
  exact (mem_offered_iff.mp h).imp And.right And.right

section

variable (options : EntityOptions) (entity : Entity) (name : String)

theorem mem_decorators_iff_uses : name ∈ (ofEntity options entity).decorators ↔
    (options.useClasses && options.includeTypeOrm) ∧ name = "Entity" ∨
      name ∈ offered options ∧ uses (ofEntity options entity).members name := by
  have hentity : name = "Entity" → name ∈ typeOrmNames := by
    rintro rfl
    decide
  rw [decorators_eq, mem_localNames_decoratorImports_iff, mem_offered_iff]
  constructor
  · rintro (⟨htypeOrm, hname, hself | huses⟩ | ⟨hvalidated, hname, huses⟩)
    · exact .inl ⟨htypeOrm, hself⟩
    · exact .inr ⟨.inl ⟨htypeOrm, hname⟩, huses⟩
    · exact .inr ⟨.inr ⟨hvalidated, hname⟩, huses⟩
  · rintro (⟨htypeOrm, hself⟩ | ⟨⟨htypeOrm, hname⟩ | ⟨hvalidated, hname⟩, huses⟩)
    · exact .inl ⟨htypeOrm, hentity hself, .inl hself⟩
    · exact .inl ⟨htypeOrm, hname, .inr huses⟩
    · exact .inr ⟨hvalidated, hname, huses⟩

/-- A decorator is imported exactly if it is applied, or else if the file could apply it and some
string of the document reads as if it did. -/
theorem mem_decorators_iff :
    name ∈ (ofEntity options entity).decorators ↔ Applies options entity name ∨
      name ∈ offered options ∧ ∃ p ∈ entity.properties,
        StandsIn (markChars name.toList) (p.shownStrings
          (options.useClasses && options.includeTypeOrm)
          (options.useClasses && options.includeValidation)) := by
  have huses (hname : name ∈ offered options) := uses_map_ofProperty_iff
    (isAlphanum_of_mem_offered hname) (options.useClasses && options.includeTypeOrm)
    (options.useClasses && options.includeValidation) entity.properties
  rw [mem_decorators_iff_uses]
  constructor
  · rintro (⟨htypeOrm, rfl⟩ | ⟨hname, hused⟩)
    · obtain ⟨hclass, htypeOrm⟩ := (Bool.and_eq_true ..).mp htypeOrm
      exact .inl (.table hclass htypeOrm rfl)
    · rcases (huses hname).mp hused with ⟨p, hp, ⟨hoption, hd⟩ | ⟨hoption, d, hd, hdn⟩⟩ | hshown
      · obtain ⟨hclass, htypeOrm⟩ := (Bool.and_eq_true ..).mp hoption
        exact .inl (.column hclass htypeOrm hp hd)
      · obtain ⟨hclass, hvalidation⟩ := (Bool.and_eq_true ..).mp hoption
        exact .inl (.validation hclass hvalidation hp hd hdn)
      · exact .inr ⟨hname, hshown⟩
  · rintro (happlies | ⟨hname, hshown⟩)
    · cases happlies with
      | table hclass htypeOrm hself => exact .inl ⟨by simp [hclass, htypeOrm], hself.symm⟩
      | @column hclass htypeOrm p hp hcolumn =>
        have hoption : (options.useClasses && options.includeTypeOrm) = true := by
          simp [hclass, htypeOrm]
        have hname := mem_offered_iff.mpr (.inl ⟨hoption, hcolumn ▸ column_name_mem p⟩)
        exact .inr ⟨hname, (huses hname).mpr (.inl ⟨p, hp, .inl ⟨hoption, hcolumn⟩⟩)⟩
      | @validation hclass hvalidation p hp d hd hcheck =>
        have hoption : (options.useClasses && options.includeValidation) = true := by
          simp [hclass, hvalidation]
        have hname := mem_offered_iff.mpr (.inr ⟨hoption, hcheck ▸ name_mem_of_mem_validation hd⟩)
        exact .inr ⟨hname, (huses hname).mpr (.inl ⟨p, hp, .inr ⟨hoption, d, hd, hcheck⟩⟩)⟩
    · exact .inr ⟨hname, (huses hname).mpr (.inr hshown)⟩

end

/-- A contact whose description speaks of a check that nothing applies. -/
def mailSchema : Schema where
  type := some (.single "string")
  format := some "email"
  description := some "Written @IsDate() before."

def contact : Document := .ofKeys [] [("ContactEntity", { properties := [("mail", mailSchema)] })]

/-- Classes with the checks of their properties. -/
def checked : EntityOptions where
  includeValidation := true

theorem extract_contact : (Entity.extract contact .error).outcome.map (List.map fun entity =>
      ((ofEntity checked entity).decorators,
        entity.properties.map fun p => p.validation.map Decorator.name)) =
    .ok [(["IsOptional", "IsString", "IsEmail", "IsDate"],
      [["IsOptional", "IsString", "IsEmail"]])] := by
  decide +kernel

theorem mem_decorators_iff_contact :
    ∃ entities, (Entity.extract contact .error).outcome = .ok entities ∧ ∃ entity ∈ entities,
      Applies checked entity "IsEmail" ∧ "IsEmail" ∈ (ofEntity checked entity).decorators := by
  obtain ⟨entities, h, entity, he, hentity⟩ :=
    exists_mem_of_map_eq_ok extract_contact (List.mem_singleton.mpr rfl)
  obtain ⟨-, hchecks⟩ := Prod.mk.inj hentity
  obtain ⟨p, hp, hnames⟩ := List.mem_map.mp (hchecks ▸ List.mem_singleton.mpr rfl)
  have hcheck : "IsEmail" ∈ p.validation.map Decorator.name := hnames ▸ by decide
  obtain ⟨d, hd, hname⟩ := List.mem_map.mp hcheck
  have happlies : Applies checked entity "IsEmail" := .validation rfl rfl hp hd hname
  exact ⟨entities, h, entity, he, happlies, (mem_decorators_iff ..).mpr (.inl happlies)⟩

/-- The file imports a decorator that it does not apply. -/
theorem decorator_imported_for_description :
    ∃ entities, (Entity.extract contact .error).outcome = .ok entities ∧ ∃ entity ∈ entities,
      "IsDate" ∈ (ofEntity checked entity).decorators ∧ ¬Applies checked entity "IsDate" := by
  obtain ⟨entities, h, entity, he, hentity⟩ :=
    exists_mem_of_map_eq_ok extract_contact (List.mem_singleton.mpr rfl)
  obtain ⟨hdecorators, hchecks⟩ := Prod.mk.inj hentity
  refine ⟨entities, h, entity, he, hdecorators ▸ by decide, fun happlies => ?_⟩
  cases happlies with
  | table _ htypeOrm => cases htypeOrm
  | column _ htypeOrm => cases htypeOrm
  | @validation _ _ p hp d hd hname =>
    have hnames := List.mem_map_of_mem hp (f := fun p => p.validation.map Decorator.name)
    rw [hchecks, List.mem_singleton] at hnames
    have hcheck : d.name ∈ p.validation.map Decorator.name := List.mem_map_of_mem hd
    rw [hnames, hname] at hcheck
    exact absurd hcheck (by decide)

end EntityFile

end OpenApiGen
