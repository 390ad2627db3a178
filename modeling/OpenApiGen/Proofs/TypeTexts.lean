import OpenApiGen.TypeExpr

/-!
# Texts of types

The text of an array type tells the type of its items, and is the text of no enumeration: only the
empty list among the values of an enumeration ends in a pair of brackets, and what stands in front of
it is a bar.
-/

namespace OpenApiGen

namespace Binary64

/-- The characters of numbers. -/
def isNumeral (c : Char) : Bool := c.isDigit || ['-', '.', 'e', '+'].contains c

theorem all_digitsText (n : Nat) : (digitsText n).all isNumeral := by
  rw [List.all_eq_true]
  intro c hc
  have hdigit : c.isDigit := Nat.isDigit_of_mem_toDigits (by decide) (by decide) hc
  simp [isNumeral, hdigit]

theorem all_zeros (n : Nat) : (zeros n).all isNumeral := by
  rw [List.all_eq_true]
  intro c hc
  rw [(List.mem_replicate.mp hc).2]
  decide

theorem all_textOfDecimal (d : Decimal) : (textOfDecimal d).all isNumeral := by
  have hds := all_digitsText d.digits
  have hmarks : isNumeral '-' ∧ isNumeral '.' ∧ isNumeral 'e' ∧ isNumeral '+' ∧ isNumeral '0' := by
    decide
  unfold textOfDecimal
  generalize digitsText d.digits = ds at hds
  have hall : ∀ {part : List Char}, part ⊆ ds → part.all isNumeral := fun hpart =>
    List.all_eq_true.mpr fun c hc => List.all_eq_true.mp hds c (hpart hc)
  dsimp only
  split
  · simp [hmarks]
  split
  · simp [hmarks, hds, all_zeros]
  split
  · simp [hmarks, hall (List.take_subset ..), hall (List.drop_subset ..)]
  split
  · simp [hmarks, hds, all_zeros]
  · rw [List.all_append, Bool.and_eq_true]
    constructor
    · cases ds with
      | nil => rfl
      | cons c more =>
        rw [List.all_cons, Bool.and_eq_true] at hds
        cases more with
        | nil => simp [hds]
        | cons next rest => simpa [hmarks] using hds
    · have hsign (negative : Prop) [Decidable negative] :
          isNumeral (if negative then '-' else '+') := by
        split
        · exact hmarks.1
        · exact hmarks.2.2.2.1
      rw [List.all_cons, List.all_cons, hmarks.2.2.1, hsign, all_digitsText]
      rfl

theorem textOfDecimal_ne_nil (d : Decimal) : textOfDecimal d ≠ [] := by
  unfold textOfDecimal
  dsimp only
  split
  · simp
  split
  · simp
  split
  · simp
  split
  · simp
  · simp

end Binary64

namespace Number

theorem toList_text_double (x : Binary64) : (text (.double x)).toList = x.text :=
  String.toList_ofList

theorem toList_text_ofNat (n : Nat) :
    (text (.integer (.ofNat n))).toList = Binary64.digitsText n :=
  String.toList_ofList

theorem toList_text_negSucc (n : Nat) :
    (text (.integer (.negSucc n))).toList = '-' :: Binary64.digitsText (n + 1) := by
  have htext : text (.integer (.negSucc n)) = "-" ++ toString (n + 1) := rfl
  rw [htext, String.toList_append]
  exact congrArg _ String.toList_ofList

theorem all_text (n : Number) : n.text.toList.all Binary64.isNumeral := by
  cases n with
  | integer n =>
    cases n with
    | ofNat n =>
      rw [toList_text_ofNat]
      exact Binary64.all_digitsText n
    | negSucc n =>
      rw [toList_text_negSucc, List.all_cons, Binary64.all_digitsText]
      decide
  | double x =>
    rw [toList_text_double, Binary64.text, List.all_append, Binary64.all_textOfDecimal]
    cases x.negative <;> decide

theorem toList_text_ne_nil (n : Number) : n.text.toList ≠ [] := by
  cases n with
  | integer n =>
    cases n with
    | ofNat n =>
      rw [toList_text_ofNat]
      exact Nat.toDigits_ne_nil
    | negSucc n =>
      rw [toList_text_negSucc]
      exact List.cons_ne_nil _ _
  | double x =>
    rw [toList_text_double, Binary64.text]
    simp [Binary64.textOfDecimal_ne_nil]

end Number

namespace Json

theorem getLast?_itemsText (items : List Json) :
    (itemsText items).toList.getLast? = some ']' := by
  induction items with
  | nil => rfl
  | cons item items ih =>
    rw [itemsText, String.toList_append, List.getLast?_append, ih]
    rfl

theorem getLast?_entriesText (entries : List (String × Json)) :
    (entriesText entries).toList.getLast? = some '}' := by
  induction entries with
  | nil => rfl
  | cons entry entries ih =>
    rw [entriesText, String.toList_append, List.getLast?_append, ih]
    rfl

/-- No value ends in an opening bracket, and only an array in a closing one. -/
theorem getLast?_text (value : Json) : ∃ c, (text value).toList.getLast? = some c ∧ c ≠ '[' ∧
    (c = ']' → ∃ items, value = .array items) := by
  match value with
  | .null => exact ⟨'l', rfl, by decide, nofun⟩
  | .boolean true => exact ⟨'e', rfl, by decide, nofun⟩
  | .boolean false => exact ⟨'e', rfl, by decide, nofun⟩
  | .number n =>
    rw [text]
    have hlast := List.getLast?_eq_some_getLast n.toList_text_ne_nil
    have hnumeral := List.all_eq_true.mp n.all_text _ (List.getLast_mem n.toList_text_ne_nil)
    generalize n.text.toList.getLast n.toList_text_ne_nil = c at hlast hnumeral
    refine ⟨c, hlast, ?_, ?_⟩
    · rintro rfl
      exact absurd hnumeral (by decide)
    · rintro rfl
      exact absurd hnumeral (by decide)
  | .string s =>
    refine ⟨'"', ?_, by decide, nofun⟩
    rw [text, quote, String.toList_ofList, quoteChars, List.getLast?_concat]
  | .array [] => exact ⟨']', rfl, by decide, fun _ => ⟨[], rfl⟩⟩
  | .array (item :: items) =>
    refine ⟨']', ?_, by decide, fun _ => ⟨_, rfl⟩⟩
    rw [text, String.toList_append, List.getLast?_append, getLast?_itemsText]
    rfl
  | .object [] => exact ⟨'\x7d', rfl, by decide, nofun⟩
  | .object ((key, inner) :: entries) =>
    refine ⟨'\x7d', ?_, by decide, nofun⟩
    rw [text, String.toList_append, List.getLast?_append, getLast?_entriesText]
    rfl

theorem toList_text_ne_nil (value : Json) : (text value).toList ≠ [] := by
  intro hnil
  obtain ⟨c, hlast, -⟩ := getLast?_text value
  rw [hnil] at hlast
  cases hlast

theorem getLast?_append_text_ne (front : List Char) (value : Json) :
    (front ++ (text value).toList).getLast? ≠ some '[' := by
  obtain ⟨c, hlast, hopen, -⟩ := getLast?_text value
  rw [List.getLast?_append, hlast]
  intro heq
  cases heq
  exact hopen rfl

/-- The brackets that end a text in which items follow are not next to each other. -/
theorem not_suffix_itemsText (items : List Json) {front : List Char}
    (hfront : front.getLast? ≠ some '[') :
    ¬['[', ']'] <:+ front ++ (itemsText items).toList := by
  induction items generalizing front with
  | nil =>
    intro h
    have htext : (itemsText []).toList = [']'] := rfl
    obtain ⟨start, hstart⟩ := h
    rw [htext, List.append_cons, List.append_left_inj] at hstart
    rw [← hstart, List.getLast?_concat] at hfront
    exact hfront rfl
  | cons item items ih =>
    rw [itemsText, String.toList_append, String.toList_append, ← List.append_assoc]
    apply ih
    rw [← List.append_assoc]
    exact getLast?_append_text_ne _ item

/-- A pair of brackets at the end is the text of the array without items. -/
theorem eq_array_nil_of_suffix {front : List Char} {value : Json}
    (h : ['[', ']'] <:+ front ++ (text value).toList) : value = .array [] := by
  obtain ⟨c, hlast, -, harray⟩ := getLast?_text value
  have hclose : c = ']' := by
    obtain ⟨start, hstart⟩ := h
    have hends := congrArg List.getLast? hstart
    rw [List.getLast?_append, List.getLast?_append, hlast] at hends
    cases hends
    rfl
  obtain ⟨items, rfl⟩ := harray hclose
  cases items with
  | nil => rfl
  | cons item items =>
    rw [text, String.toList_append, ← List.append_assoc] at h
    refine absurd h (not_suffix_itemsText items ?_)
    rw [String.toList_append, ← List.append_assoc]
    exact getLast?_append_text_ne _ item

end Json

namespace TypeExpr

theorem toList_union_cons_cons (value next : Json) (rest : List Json) :
    (union (value :: next :: rest)).toList =
      (Json.text value).toList ++ " | ".toList ++ (union (next :: rest)).toList := by
  simp [union, String.toList_intercalate]

/-- The text of an enumeration ends in that of one of its values, which is all of it or has a bar in
front. -/
theorem toList_union_eq_append {values : List Json} (h : values ≠ []) :
    ∃ front value, (union values).toList = front ++ (Json.text value).toList ∧
      (front = [] ∨ " | ".toList <:+ front) := by
  induction values with
  | nil => exact absurd rfl h
  | cons value values ih =>
    cases values with
    | nil =>
      refine ⟨[], value, ?_, .inl rfl⟩
      simp [union]
    | cons next rest =>
      obtain ⟨front, last, hrest, hfront⟩ := ih (List.cons_ne_nil _ _)
      refine ⟨(Json.text value).toList ++ " | ".toList ++ front, last, ?_, .inr ?_⟩
      · rw [toList_union_cons_cons, hrest, List.append_assoc _ front]
      · rcases hfront with rfl | hbar
        · rw [List.append_nil]
          exact List.suffix_append ..
        · exact hbar.trans (List.suffix_append ..)

theorem union_ne_empty {values : List Json} (h : values ≠ []) : union values ≠ "" := by
  obtain ⟨front, value, hunion, -⟩ := toList_union_eq_append h
  intro hempty
  rw [hempty] at hunion
  exact value.toList_text_ne_nil (List.append_eq_nil_iff.mp hunion.symm).2

/-- Where the text of an enumeration ends in a pair of brackets, this pair is all of it or has a bar
in front. -/
theorem bar_of_union_eq_append {values : List Json} {front : List Char}
    (h : (union values).toList = front ++ ['[', ']']) : front = [] ∨ " | ".toList <:+ front := by
  have hvalues : values ≠ [] := by
    rintro rfl
    simp [union] at h
  obtain ⟨start, value, hunion, hbar⟩ := toList_union_eq_append hvalues
  have hsuffix : ['[', ']'] <:+ start ++ (Json.text value).toList := by
    rw [← hunion, h]
    exact List.suffix_append ..
  have hempty : (Json.text value).toList = ['[', ']'] := by
    rw [Json.eq_array_nil_of_suffix hsuffix]
    rfl
  rw [hunion, hempty, List.append_left_inj] at h
  rwa [← h]

theorem toList_arrayOfText_of_bar {item : String} (h : " | ".toList <:+: item.toList) :
    (arrayOfText item).toList = '(' :: item.toList ++ [')'] ++ ['[', ']'] := by
  unfold arrayOfText
  rw [if_pos (Text.occurs_iff.mpr h)]
  simp [String.toList_append]

theorem toList_arrayOfText {item : String} (h : ¬" | ".toList <:+: item.toList) :
    (arrayOfText item).toList = item.toList ++ ['[', ']'] := by
  unfold arrayOfText
  rw [if_neg (fun hoccurs => h (Text.occurs_iff.mp hoccurs)), String.toList_append]
  rfl

theorem brackets_suffix_arrayOfText (item : String) :
    ['[', ']'] <:+ (arrayOfText item).toList := by
  by_cases hbar : " | ".toList <:+: item.toList
  · rw [toList_arrayOfText_of_bar hbar]
    exact List.suffix_append ..
  · rw [toList_arrayOfText hbar]
    exact List.suffix_append ..

theorem arrayOfText_ne_empty (item : String) : arrayOfText item ≠ "" := by
  unfold arrayOfText
  split <;> simp

theorem arrayOfText_ne_union {item : String} (hitem : item ≠ "") (values : List Json) :
    arrayOfText item ≠ union values := by
  intro heq
  replace heq := (congrArg String.toList heq).symm
  by_cases hbar : " | ".toList <:+: item.toList
  · rw [toList_arrayOfText_of_bar hbar] at heq
    rcases bar_of_union_eq_append heq with hnil | ⟨start, hends⟩
    · cases hnil
    · replace hends := congrArg List.getLast? hends
      rw [List.getLast?_concat, List.getLast?_append] at hends
      cases hends
  · rw [toList_arrayOfText hbar] at heq
    rcases bar_of_union_eq_append heq with hnil | hends
    · exact hitem (String.toList_inj.mp hnil)
    · exact hbar hends.isInfix

theorem arrayOfText_inj {item other : String} :
    arrayOfText item = arrayOfText other ↔ item = other := by
  -- an item type in parentheses has the bar inside, where the one without has none
  have hmixed : ∀ {a b : String}, " | ".toList <:+: a.toList → ¬" | ".toList <:+: b.toList →
      arrayOfText a ≠ arrayOfText b := by
    intro a b ha hb heq
    replace heq := congrArg String.toList heq
    rw [toList_arrayOfText_of_bar ha, toList_arrayOfText hb, List.append_left_inj] at heq
    rw [← heq] at hb
    exact hb (ha.trans ⟨['('], [')'], rfl⟩)
  refine ⟨fun heq => ?_, congrArg _⟩
  by_cases hitem : " | ".toList <:+: item.toList
  · by_cases hother : " | ".toList <:+: other.toList
    · replace heq := congrArg String.toList heq
      rw [toList_arrayOfText_of_bar hitem, toList_arrayOfText_of_bar hother,
        List.append_left_inj, List.append_left_inj, List.cons_inj_right] at heq
      exact String.toList_inj.mp heq
    · exact absurd heq (hmixed hitem hother)
  · by_cases hother : " | ".toList <:+: other.toList
    · exact absurd heq.symm (hmixed hother hitem)
    · replace heq := congrArg String.toList heq
      rw [toList_arrayOfText hitem, toList_arrayOfText hother, List.append_left_inj] at heq
      exact String.toList_inj.mp heq

end TypeExpr

end OpenApiGen
