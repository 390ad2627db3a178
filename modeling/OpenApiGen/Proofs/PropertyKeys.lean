import OpenApiGen.RequestSchema
import OpenApiGen.Proofs.ArrayProperties
import OpenApiGen.Proofs.BodyTypes
import OpenApiGen.Proofs.StringLiterals

/-!
# Keys that read back

The key of a property is a bare name or a string literal, and either way one token that stands for
the name of the property and no other text. So literals whose properties have distinct names have
distinct keys, in whatever form each of them is written.
-/

namespace OpenApiGen

/-! ## Code units -/

/-- No character is half of a pair of code units, so that a text begins with the character that its
units begin with. -/
theorem utf16Point_append_inj {c d : Char} {units units' : List Nat}
    (h : utf16Point c.toNat ++ units = utf16Point d.toNat ++ units') : c = d ∧ units = units' := by
  have hc : c.toNat.isValidChar := c.valid
  have hd : d.toNat.isValidChar := d.valid
  unfold Nat.isValidChar at hc hd
  rw [← Char.toNat_inj]
  unfold utf16Point at h
  split at h
  · split at h
    · simpa using h
    · simp only [List.cons_append, List.nil_append, List.cons.injEq] at h
      omega
  · split at h
    · simp only [List.cons_append, List.nil_append, List.cons.injEq] at h
      omega
    · simp only [List.cons_append, List.nil_append, List.cons.injEq] at h
      exact ⟨by omega, h.2.2⟩

theorem utf16_injective : Function.Injective utf16 := by
  intro cs ds h
  induction cs generalizing ds with
  | nil =>
    have hlength := StringLiteral.length_le_utf16 ds
    rw [← h] at hlength
    exact (List.length_eq_zero_iff.mp (Nat.le_zero.mp hlength)).symm
  | cons c cs ih =>
    cases ds with
    | nil =>
      have hlength := StringLiteral.length_le_utf16 (c :: cs)
      rw [h] at hlength
      exact absurd hlength (Nat.not_succ_le_zero _)
    | cons d ds =>
      obtain ⟨rfl, hrest⟩ := utf16Point_append_inj h
      rw [ih hrest]

/-! ## Literals with escapes -/

namespace StringLiteral

theorem hex?_hexDigit (n : Nat) : JsonText.hex? (Json.hexDigit n) = some (n % 16) := by
  have hdigits : ∀ m < 16, JsonText.hex? (Json.hexDigit m) = some m := by decide
  have hmod : Json.hexDigit n = Json.hexDigit (n % 16) := by simp [Json.hexDigit]
  rw [hmod]
  exact hdigits _ (Nat.mod_lt n (by decide))

theorem readBody_of_escape (escape behind : List Char) {units : List Nat}
    (h : escape? (escape ++ behind) = some (units, behind)) :
    readBody ('\\' :: (escape ++ behind)) =
      (readBody behind).map fun (more, rest) => (units ++ more, rest) := by
  rw [readBody, if_neg (by decide), if_pos rfl]
  split
  · rename_i hnone
    cases h.symm.trans hnone
  · rename_i hsome
    cases h.symm.trans hsome
    rfl

/-- What a character is escaped to is read as the character. -/
theorem readBody_escape (c : Char) (behind : List Char) :
    readBody (Json.escape c ++ behind) =
      (readBody behind).map fun (more, rest) => (utf16Point c.toNat ++ more, rest) := by
  unfold Json.escape
  split_ifs with hquote hslash hline hreturn htab hback hfeed hcontrol
  · subst hquote
    exact readBody_of_escape ['"'] behind rfl
  · subst hslash
    exact readBody_of_escape ['\\'] behind rfl
  · subst hline
    exact readBody_of_escape ['n'] behind rfl
  · subst hreturn
    exact readBody_of_escape ['r'] behind rfl
  · subst htab
    exact readBody_of_escape ['t'] behind rfl
  · subst hback
    exact readBody_of_escape ['b'] behind rfl
  · subst hfeed
    exact readBody_of_escape ['f'] behind rfl
  · have hcode : c.toNat / 16 % 16 * 16 + c.toNat % 16 = c.toNat := by omega
    have hpoint : utf16Point c.toNat = [c.toNat] := if_pos (by omega)
    rw [hpoint]
    refine readBody_of_escape
      ['u', '0', '0', Json.hexDigit (c.toNat / 16), Json.hexDigit c.toNat] behind ?_
    have hzero : JsonText.hex? '0' = some 0 := rfl
    simp [escape?, hzero, hex?_hexDigit, hcode]
  · rw [List.singleton_append, readBody, if_neg hquote, if_neg hslash,
      if_neg (not_or.mpr ⟨hline, hreturn⟩)]

theorem readBody_escaped (cs rest : List Char) :
    readBody (cs.flatMap Json.escape ++ '"' :: rest) = some (utf16 cs, rest) := by
  induction cs with
  | nil =>
    have hnil : Verbatim [] := nofun
    exact readBody_of_verbatim hnil rest
  | cons c cs ih =>
    rw [List.flatMap_cons, List.append_assoc, readBody_escape, ih]
    rfl

end StringLiteral

namespace PropertyKey

variable (letters : Char → Bool)

/-- Names are made of letters beyond ASCII, too; which these are is left open. -/
def continues (c : Char) : Bool := Naming.isNameChar c || (128 ≤ c.toNat && letters c)

def starts (c : Char) : Bool := Naming.isNameStart c || (128 ≤ c.toNat && letters c)

/-- The key that a source starts with: the code units that it is for, and what follows. A name goes
on as far as it can. -/
def read? : List Char → Option (List Nat × List Char)
  | [] => none
  | c :: rest =>
    if c = '"' then StringLiteral.readBody rest
    else if starts letters c then
      some (utf16 (c :: rest.takeWhile (continues letters)), rest.dropWhile (continues letters))
    else none

variable {letters}

theorem read?_bare {cs rest : List Char} (h : Naming.isIdentifierChars cs)
    (hrest : ∀ c ∈ rest.head?, ¬continues letters c) :
    read? letters (cs ++ rest) = some (utf16 cs, rest) := by
  cases cs with
  | nil => cases h
  | cons c more =>
    obtain ⟨hstart, hmore⟩ := Bool.and_eq_true_iff.mp h
    have hquote : c ≠ '"' := by
      rintro rfl
      exact absurd hstart (by decide)
    have hcontinues : ∀ d ∈ more, continues letters d := fun d hd => by
      simp [continues, List.all_eq_true.mp hmore d hd]
    have hends : rest.takeWhile (continues letters) = [] ∧
        rest.dropWhile (continues letters) = rest := by
      cases rest with
      | nil => exact ⟨rfl, rfl⟩
      | cons d rest =>
        have hd : ¬continues letters d := hrest d rfl
        exact ⟨List.takeWhile_cons_of_neg hd, List.dropWhile_cons_of_neg hd⟩
    rw [List.cons_append, read?, if_neg hquote, if_pos (by simp [starts, hstart]),
      List.takeWhile_append_of_pos hcontinues, List.dropWhile_append_of_pos hcontinues, hends.1,
      hends.2, List.append_nil]

/-- A key is read back to the name of its property, where no further character belongs to it. -/
theorem read?_propertyKey (name : String) {rest : List Char}
    (hrest : ∀ c ∈ rest.head?, ¬continues letters c) :
    read? letters ((Naming.propertyKey name).toList ++ rest) = some (utf16 name.toList, rest) := by
  unfold Naming.propertyKey
  split
  · rename_i hname
    exact read?_bare hname hrest
  · have hquoted : (Json.quote name).toList ++ rest =
        '"' :: (name.toList.flatMap Json.escape ++ '"' :: rest) := by
      simp [Json.quote, Json.quoteChars]
    rw [hquoted, read?, if_pos rfl]
    exact StringLiteral.readBody_escaped name.toList rest

/-! ## Literals with keys -/

/-- Names of properties, and the keys under which the properties stand in a literal. -/
inductive KeysOf : List String → List String → Prop
  | parameterSchema {parameters : List Parameter} {fields : List (String × ZodSchema)}
      (h : ZodSchema.ofParameters parameters = .object fields) :
      KeysOf (parameters.map Parameter.name) (KeyedList.keys fields)
  | parametersType {parameters : List Parameter} {fields : List (String × Bool × TypeExpr)}
      (h : ServiceFunction.parametersType parameters = .record fields) :
      KeysOf (parameters.map Parameter.name) (KeyedList.keys fields)
  | bodySchema (required : List String) (properties : List (String × RequestBody)) :
      KeysOf (KeyedList.keys properties)
        (KeyedList.keys (ZodSchema.ofProperties required properties))
  | bodyType {required : List String} {properties : List (String × RequestBody)}
      {before after : List Declaration} {fields : List (String × Bool × TypeExpr)}
      (h : (RequestBody.fieldTypes required properties).run before = .ok (fields, after)) :
      KeysOf (KeyedList.keys properties) (KeyedList.keys fields)
  | entityMembers (typeOrm validated : Bool) (properties : List EntityProperty) :
      KeysOf (properties.map EntityProperty.name)
        (properties.map fun p => (EntityMember.ofProperty typeOrm validated p).key)
  | nestedType (properties : List EntityProperty) :
      KeysOf (properties.map EntityProperty.name)
        (KeyedList.keys (EntityProperty.nestedFields properties))

theorem keys_ofProperties (required : List String) (properties : List (String × RequestBody)) :
    KeyedList.keys (ZodSchema.ofProperties required properties) =
      (KeyedList.keys properties).map Naming.propertyKey := by
  induction properties with
  | nil => rfl
  | cons property rest ih => rw [ZodSchema.ofProperties, KeyedList.keys_cons, ih]; rfl

theorem keys_of_run_fieldTypes {required : List String} {properties : List (String × RequestBody)}
    {before after : List Declaration} {fields : List (String × Bool × TypeExpr)}
    (h : (RequestBody.fieldTypes required properties).run before = .ok (fields, after)) :
    KeyedList.keys fields = (KeyedList.keys properties).map Naming.propertyKey := by
  induction properties generalizing before fields with
  | nil =>
    rw [RequestBody.run_fieldTypes_nil] at h
    cases h
    rfl
  | cons property rest ih =>
    rw [RequestBody.run_fieldTypes_cons, bind_eq_ok_iff] at h
    obtain ⟨⟨type, between⟩, -, h⟩ := h
    obtain ⟨⟨inner, last⟩, hrest, heq⟩ := map_eq_ok_iff.mp h
    cases heq
    rw [KeyedList.keys_cons, KeyedList.keys_cons, List.map_cons, ih hrest]

theorem KeysOf.eq_map {names keys : List String} (h : KeysOf names keys) :
    keys = names.map Naming.propertyKey := by
  cases h with
  | parameterSchema h =>
    cases h
    simp [KeyedList.keys]
  | parametersType h =>
    cases h
    simp [KeyedList.keys]
  | bodySchema required properties => exact keys_ofProperties required properties
  | bodyType h => exact keys_of_run_fieldTypes h
  | entityMembers typeOrm validated properties =>
    rw [List.map_map]
    rfl
  | nestedType properties =>
    rw [EntityProperty.nestedFields_eq_map]
    simp [KeyedList.keys]

/-- Each key is for its name, and no two of distinct names are for the same. -/
structure KeepsApart (letters : Char → Bool) (names keys : List String) : Prop where
  denotes : List.Forall₂ (fun name key => read? letters key.toList = some (utf16 name.toList, []))
    names keys
  distinct : names.Nodup → (keys.map fun key => read? letters key.toList).Nodup

theorem read?_propertyKey_eq_iff {name other : String} :
    read? letters (Naming.propertyKey name).toList = some (utf16 other.toList, []) ↔
      name = other := by
  have hends : ∀ c ∈ ([] : List Char).head?, ¬continues letters c := nofun
  have hread := read?_propertyKey name hends
  rw [List.append_nil] at hread
  rw [hread, Option.some_inj, Prod.mk.injEq, and_iff_left rfl, utf16_injective.eq_iff,
    String.toList_inj]

theorem keepsApart_propertyKey (names : List String) :
    KeepsApart letters names (names.map Naming.propertyKey) where
  denotes := by
    rw [List.forall₂_map_right_iff, List.forall₂_same]
    exact fun name _ => read?_propertyKey_eq_iff.mpr rfl
  distinct hnames := by
    rw [List.map_map]
    refine hnames.map fun name other h => ?_
    exact read?_propertyKey_eq_iff.mp (h.trans (read?_propertyKey_eq_iff.mpr rfl))

/-- The key of a name is one token, which ends where nothing behind it goes on with a name. It is
for this name and no other one, so that keys differ where names do, and the keys of a literal are
for distinct names if its properties have them. -/
theorem propertyKey_reads_back (letters : Char → Bool) :
    (∀ (name : String) (rest : List Char), (∀ c ∈ rest.head?, ¬continues letters c) →
        read? letters ((Naming.propertyKey name).toList ++ rest) = some (utf16 name.toList, rest)) ∧
      (∀ name other : String,
        read? letters (Naming.propertyKey name).toList = some (utf16 other.toList, []) ↔
          name = other) ∧
      Function.Injective Naming.propertyKey ∧
      ∀ names keys, KeysOf names keys → KeepsApart letters names keys := by
  refine ⟨fun name rest hrest => read?_propertyKey name hrest,
    fun name other => read?_propertyKey_eq_iff, ?_, ?_⟩
  · intro name other h
    have hother : read? letters (Naming.propertyKey other).toList = some (utf16 other.toList, []) :=
      read?_propertyKey_eq_iff.mpr rfl
    exact read?_propertyKey_eq_iff.mp (h ▸ hother)
  · intro names keys hkeys
    rw [hkeys.eq_map]
    exact keepsApart_propertyKey names

/-- One name that is bare, and one with all that has to be escaped. -/
def namedProperties : List (String × RequestBody) :=
  [("id", .untyped none), ("1 \"id\"\\\n\x00", .untyped none)]

theorem propertyKey_reads_back_named :
    (∀ c ∈ ['?', ':'].head?, ¬continues (fun _ => true) c) ∧
      KeysOf (KeyedList.keys namedProperties)
        (KeyedList.keys (ZodSchema.ofProperties ["id"] namedProperties)) ∧
      read? (fun _ => true) ((Naming.propertyKey "1 \"id\"\\\n\x00").toList ++ ['?', ':']) =
        some (utf16 "1 \"id\"\\\n\x00".toList, ['?', ':']) ∧
      KeepsApart (fun _ => true) (KeyedList.keys namedProperties)
        (KeyedList.keys (ZodSchema.ofProperties ["id"] namedProperties)) := by
  have hends : ∀ c ∈ ['?', ':'].head?, ¬continues (fun _ => true) c := by
    intro c hc
    cases hc
    decide
  have hkeys := KeysOf.bodySchema ["id"] namedProperties
  obtain ⟨hreads, -, -, hapart⟩ := propertyKey_reads_back fun _ => true
  exact ⟨hends, hkeys, hreads _ _ hends, hapart _ _ hkeys⟩

end PropertyKey
end OpenApiGen
