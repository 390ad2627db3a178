import OpenApiGen.Naming
import OpenApiGen.Proofs.TypeScopes
import OpenApiGen.Proofs.TypeTexts

/-!
# Texts that are read as array types

A pair of brackets at the end of a type is for all of it only if there is one operand in front. A
reader that keeps track of strings and brackets finds one in front of the brackets of each array
type, as long as the names in it are words, and none where an enumeration ends in a pair of brackets.
-/

namespace OpenApiGen

/-- Where the reader of a type is: outside of strings, in one, or behind a backslash in one. The
pending characters close the brackets that are open, the last one first. -/
inductive Reading
  | code (pending : List Char)
  | string (pending : List Char)
  | escape (pending : List Char)

namespace Reading

def closing? : Char → Option Char
  | '(' => some ')'
  | '[' => some ']'
  | '{' => some '}'
  | _ => none

/-- Quotes and brackets. -/
def isMark (c : Char) : Bool := ['"', '(', ')', '[', ']', '{', '}'].contains c

/-- The characters of names, keywords and numbers. -/
def isWord (c : Char) : Bool := c.isAlphanum || ['_', '$', '-', '.', '+'].contains c

/-- One character further. Outside of brackets only words, strings and brackets belong to one
operand. -/
def next : Reading → Char → Option Reading
  | code pending, c =>
    if c = '"' then some (string pending)
    else match closing? c with
      | some closer => some (code (closer :: pending))
      | none =>
        if isMark c then if pending.head? = some c then some (code pending.tail) else none
        else if isWord c || !pending.isEmpty then some (code pending) else none
  | string pending, c =>
    if c = '"' then some (code pending)
    else if c = '\\' then some (escape pending) else some (string pending)
  | escape pending, _ => some (string pending)

/-- Reading a text leads from one place to another. -/
def Reads (r : Reading) (cs : List Char) (s : Reading) : Prop := cs.foldlM next r = some s

/-- Whatever brackets are open around a text, these are open behind it. -/
abbrev Returns (pending cs : List Char) : Prop := Reads (code pending) cs (code pending)

theorem Reads.nil (r : Reading) : Reads r [] r := rfl

theorem Reads.append {r s t : Reading} {cs ds : List Char} (h : Reads r cs s) (h' : Reads s ds t) :
    Reads r (cs ++ ds) t := by
  rw [Reads, List.foldlM_append, h]
  exact h'

theorem Reads.cons {r s t : Reading} {c : Char} {cs : List Char} (h : next r c = some s)
    (h' : Reads s cs t) : Reads r (c :: cs) t := by
  rw [Reads, List.foldlM_cons, h]
  exact h'

theorem isMark_of_isWord {c : Char} (h : isWord c) : isMark c = false := by
  by_contra hmark
  rw [Bool.not_eq_false, isMark, List.contains_iff_mem] at hmark
  simp only [List.mem_cons, List.not_mem_nil, or_false] at hmark
  rcases hmark with rfl | rfl | rfl | rfl | rfl | rfl | rfl <;> exact absurd h (by decide)

theorem isWord_of_isNumeral {c : Char} (h : Binary64.isNumeral c) : isWord c := by
  rw [Binary64.isNumeral, Bool.or_eq_true, List.contains_iff_mem] at h
  rcases h with hdigit | hsign
  · simp [isWord, Char.isAlphanum, hdigit]
  · simp only [List.mem_cons, List.not_mem_nil, or_false] at hsign
    rcases hsign with rfl | rfl | rfl | rfl <;> decide

theorem all_isWord_of_isIdentifier {name : String} (h : Naming.isIdentifier name) :
    name.toList.all isWord := by
  have hchar : ∀ c, Naming.isNameChar c → isWord c := by
    intro c hc
    simp only [Naming.isNameChar, Bool.or_eq_true, beq_iff_eq] at hc
    rcases hc with (hc | rfl) | rfl
    · rw [isWord, hc, Bool.true_or]
    · decide
    · decide
  have hstart : ∀ c, Naming.isNameStart c → isWord c := by
    intro c hc
    refine hchar c ?_
    simp only [Naming.isNameStart, Bool.or_eq_true] at hc
    simpa [Naming.isNameChar, Char.isAlphanum, or_assoc] using hc.imp_left (Or.imp_left Or.inl)
  unfold Naming.isIdentifier at h
  generalize name.toList = cs at h
  cases cs with
  | nil => cases h
  | cons c rest =>
    rw [Naming.isIdentifierChars, Bool.and_eq_true] at h
    rw [List.all_cons, Bool.and_eq_true]
    exact ⟨hstart c h.1, List.all_eq_true.mpr fun d hd => hchar d (List.all_eq_true.mp h.2 d hd)⟩

theorem next_code_of_not_mark {c : Char} (h : isMark c = false) (pending : List Char) :
    next (code pending) c = if isWord c || !pending.isEmpty then some (code pending) else none := by
  have hquote : c ≠ '"' := by
    rintro rfl
    exact absurd h (by decide)
  have hclosing : closing? c = none := by
    unfold closing?
    split
    · exact absurd h (by decide)
    · exact absurd h (by decide)
    · exact absurd h (by decide)
    · rfl
  simp only [next, if_neg hquote, hclosing, h, Bool.false_eq_true, if_false]

/-- Words are read over everywhere. -/
theorem returns_of_words {cs : List Char} (h : cs.all isWord) (pending : List Char) :
    Returns pending cs := by
  induction cs with
  | nil => exact .nil _
  | cons c cs ih =>
    rw [List.all_cons, Bool.and_eq_true] at h
    refine .cons ?_ (ih h.2)
    rw [next_code_of_not_mark (isMark_of_isWord h.1), h.1, Bool.true_or, if_pos rfl]

/-- Inside of brackets all other characters are read over, too. -/
theorem returns_of_not_mark {cs : List Char} (h : cs.all (!isMark ·)) (closer : Char)
    (pending : List Char) : Returns (closer :: pending) cs := by
  induction cs with
  | nil => exact .nil _
  | cons c cs ih =>
    rw [List.all_cons, Bool.and_eq_true, Bool.not_eq_true'] at h
    refine .cons ?_ (ih h.2)
    rw [next_code_of_not_mark h.1, List.isEmpty_cons, Bool.not_false, Bool.or_true, if_pos rfl]

/-- Brackets around a text. -/
theorem returns_of_brackets {opener closer : Char} {cs pending : List Char}
    (hc : closing? opener = some closer) (h : Returns (closer :: pending) cs) :
    Returns pending (opener :: cs ++ [closer]) := by
  have hsteps : next (code pending) opener = some (code (closer :: pending)) ∧
      next (code (closer :: pending)) closer = some (code pending) := by
    unfold closing? at hc
    split at hc <;> cases hc <;> exact ⟨rfl, rfl⟩
  exact .cons hsteps.1 (h.append (.cons hsteps.2 (.nil _)))

/-! ## Strings -/

theorem next_string {c : Char} (hquote : c ≠ '"') (hescape : c ≠ '\\') (pending : List Char) :
    next (string pending) c = some (string pending) := by
  rw [next, if_neg hquote, if_neg hescape]

theorem hexDigit_ne (n : Nat) : Json.hexDigit n ≠ '"' ∧ Json.hexDigit n ≠ '\\' := by
  have hall : ∀ m < 16, (Nat.toDigits 16 m).headD '0' ≠ '"' ∧
      (Nat.toDigits 16 m).headD '0' ≠ '\\' := by
    decide
  exact hall (n % 16) (Nat.mod_lt n (by decide))

theorem reads_escape (c : Char) (pending : List Char) :
    Reads (string pending) (Json.escape c) (string pending) := by
  have hpair (d : Char) : Reads (string pending) ['\\', d] (string pending) := rfl
  unfold Json.escape
  split
  · exact hpair _
  split
  · exact hpair _
  split
  · exact hpair _
  split
  · exact hpair _
  split
  · exact hpair _
  split
  · exact hpair _
  split
  · exact hpair _
  rename_i hquote hescape _ _ _ _ _
  split
  · have hdigit (n : Nat) : next (string pending) (Json.hexDigit n) = some (string pending) :=
      next_string (hexDigit_ne n).1 (hexDigit_ne n).2 pending
    have hzeros : Reads (string pending) ['\\', 'u', '0', '0'] (string pending) := rfl
    exact hzeros.append (.cons (hdigit _) (.cons (hdigit _) (.nil _)))
  · exact .cons (next_string hquote hescape pending) (.nil _)

theorem returns_quoteChars (cs pending : List Char) : Returns pending (Json.quoteChars cs) := by
  have hbody : Reads (string pending) (cs.flatMap Json.escape) (string pending) := by
    induction cs with
    | nil => exact .nil _
    | cons c cs ih =>
      rw [List.flatMap_cons]
      exact (reads_escape c pending).append ih
  exact .cons rfl (hbody.append (.cons rfl (.nil _)))

theorem returns_quote (s : String) (pending : List Char) :
    Returns pending (Json.quote s).toList := by
  rw [Json.quote, String.toList_ofList]
  exact returns_quoteChars s.toList pending

/-! ## Values -/

mutual

/-- A value is one operand. -/
theorem returns_text : (value : Json) → (pending : List Char) → Returns pending value.text.toList
  | .null, _ => returns_of_words (by decide) _
  | .boolean true, _ => returns_of_words (by decide) _
  | .boolean false, _ => returns_of_words (by decide) _
  | .number n, _ => by
    rw [Json.text]
    refine returns_of_words (List.all_eq_true.mpr fun c hc => ?_) _
    exact isWord_of_isNumeral (List.all_eq_true.mp n.all_text c hc)
  | .string s, _ => by
    rw [Json.text]
    exact returns_quote s _
  | .array [], _ => rfl
  | .array (item :: items), pending => by
    rw [Json.text, String.toList_append, String.toList_append]
    have hopen : Reads (code pending) "[".toList (code (']' :: pending)) := rfl
    exact (hopen.append (returns_text item _)).append (reads_itemsText items pending)
  | .object [], _ => rfl
  | .object ((key, value) :: entries), pending => by
    rw [Json.text]
    simp only [String.toList_append]
    have hopen : Reads (code pending) "\x7b".toList (code ('}' :: pending)) := rfl
    have hcolon : Returns ('}' :: pending) ":".toList := returns_of_not_mark (by decide) _ _
    exact (((hopen.append (returns_quote key _)).append hcolon).append
      (returns_text value _)).append (reads_entriesText entries pending)

theorem reads_itemsText : (items : List Json) → (pending : List Char) →
    Reads (code (']' :: pending)) (Json.itemsText items).toList (code pending)
  | [], _ => rfl
  | item :: items, pending => by
    rw [Json.itemsText, String.toList_append, String.toList_append]
    have hcomma : Returns (']' :: pending) ",".toList := returns_of_not_mark (by decide) _ _
    exact (hcomma.append (returns_text item _)).append (reads_itemsText items pending)

theorem reads_entriesText : (entries : List (String × Json)) → (pending : List Char) →
    Reads (code ('}' :: pending)) (Json.entriesText entries).toList (code pending)
  | [], _ => rfl
  | (key, value) :: entries, pending => by
    rw [Json.entriesText]
    simp only [String.toList_append]
    have hcomma : Returns ('}' :: pending) ",".toList := returns_of_not_mark (by decide) _ _
    have hcolon : Returns ('}' :: pending) ":".toList := returns_of_not_mark (by decide) _ _
    exact (((hcomma.append (returns_quote key _)).append hcolon).append
      (returns_text value _)).append (reads_entriesText entries pending)

end

end Reading

/-! ## Types -/

/-- A name that is read as one word. -/
def IsWordName (name : String) : Prop := name ≠ "" ∧ name.toList.all Reading.isWord

namespace TypeExpr

/-- The names in a type are words, its enumerations have literals, and its fields have keys as they
are written for names. -/
inductive Readable : TypeExpr → Prop
  | any : Readable any
  | string : Readable string
  | number : Readable number
  | boolean : Readable boolean
  | object : Readable object
  | date : Readable date
  | named {name} (h : IsWordName name) : Readable (named name)
  | literals {values} (h : values ≠ []) : Readable (literals values)
  | array {item} (h : Readable item) : Readable (array item)
  | nullable {type} (h : Readable type) : Readable (nullable type)
  | record {fields} (hk : ∀ field ∈ fields, ∃ name, field.1 = Naming.propertyKey name)
      (h : ∀ field ∈ fields, Readable field.2.2) : Readable (record fields)

/-- The text of a type comes back to the brackets that are open around it, and outside of brackets
it does so, too, unless it has a bar in it. -/
structure TextReturns (text : List Char) : Prop where
  ne_nil : text ≠ []
  inside : ∀ closer pending, Reading.Returns (closer :: pending) text
  outside : Reading.Returns [] text ∨ " | ".toList <:+: text

theorem TextReturns.of_returns {text : List Char} (hn : text ≠ [])
    (h : ∀ pending, Reading.Returns pending text) : TextReturns text :=
  ⟨hn, fun _ _ => h _, .inl (h _)⟩

theorem TextReturns.of_words {text : List Char} (hn : text ≠ []) (h : text.all Reading.isWord) :
    TextReturns text :=
  .of_returns hn fun pending => Reading.returns_of_words h pending

/-- What stands in front of the brackets of an array type is one operand. -/
theorem TextReturns.exists_operand {item : String} (h : TextReturns item.toList) :
    ∃ operand, operand ≠ [] ∧ (∀ pending, Reading.Returns pending operand) ∧
      (arrayOfText item).toList = operand ++ ['[', ']'] := by
  by_cases hbar : " | ".toList <:+: item.toList
  · refine ⟨'(' :: item.toList ++ [')'], by simp, fun pending => ?_,
      toList_arrayOfText_of_bar hbar⟩
    exact Reading.returns_of_brackets rfl (h.inside _ _)
  · refine ⟨item.toList, h.ne_nil, fun pending => ?_, toList_arrayOfText hbar⟩
    cases pending with
    | nil => exact h.outside.resolve_right hbar
    | cons closer pending => exact h.inside closer pending

theorem textReturns_union {values : List Json} (h : values ≠ []) :
    TextReturns (union values).toList := by
  induction values with
  | nil => exact absurd rfl h
  | cons value values ih =>
    cases values with
    | nil =>
      have hone : (union [value]).toList = value.text.toList := by simp [union]
      rw [hone]
      exact .of_returns value.toList_text_ne_nil (Reading.returns_text value)
    | cons next rest =>
      rw [toList_union_cons_cons]
      have hrest := ih (List.cons_ne_nil _ _)
      have hbar (closer : Char) (pending : List Char) :
          Reading.Returns (closer :: pending) " | ".toList :=
        Reading.returns_of_not_mark (by decide) _ _
      refine ⟨List.append_ne_nil_of_right_ne_nil _ hrest.ne_nil, fun closer pending => ?_,
        .inr (List.infix_append ..)⟩
      exact ((Reading.returns_text value _).append (hbar closer pending)).append
        (hrest.inside closer pending)

theorem textReturns_nullable {text : String} (h : TextReturns text.toList) :
    TextReturns (text ++ " | null").toList := by
  have hnull (closer : Char) (pending : List Char) :
      Reading.Returns (closer :: pending) " | null".toList :=
    Reading.returns_of_not_mark (by decide) _ _
  rw [String.toList_append]
  refine ⟨List.append_ne_nil_of_left_ne_nil h.ne_nil _, fun closer pending => ?_, .inr ?_⟩
  · exact (h.inside closer pending).append (hnull closer pending)
  · exact ⟨text.toList, "null".toList, by simp⟩

theorem returns_propertyKey (name : String) (pending : List Char) :
    Reading.Returns pending (Naming.propertyKey name).toList := by
  unfold Naming.propertyKey
  split
  · rename_i hidentifier
    exact Reading.returns_of_words (Reading.all_isWord_of_isIdentifier hidentifier) _
  · exact Reading.returns_quote name pending

theorem returns_indent (depth : Nat) (closer : Char) (pending : List Char) :
    Reading.Returns (closer :: pending) (indent depth).toList := by
  refine Reading.returns_of_not_mark (List.all_eq_true.mpr fun c hc => ?_) _ _
  rw [indent, String.toList_ofList] at hc
  rw [(List.mem_replicate.mp hc).2]
  decide

/-- Inside of a record, its fields are read over. -/
theorem returns_fieldsText {fields : List (String × Bool × TypeExpr)} {depth : Nat}
    (hk : ∀ field ∈ fields, ∃ name, field.1 = Naming.propertyKey name)
    (h : ∀ field ∈ fields, TextReturns (field.2.2.text depth).toList) (closer : Char)
    (pending : List Char) :
    Reading.Returns (closer :: pending) (fieldsText depth fields).toList := by
  induction fields with
  | nil =>
    rw [fieldsText]
    exact .nil _
  | cons field fields ih =>
    obtain ⟨key, optional, type⟩ := field
    obtain ⟨name, hname⟩ := hk _ (List.mem_cons_self ..)
    have htype := h _ (List.mem_cons_self ..)
    have hrest := ih (fun field hf => hk field (List.mem_cons_of_mem _ hf))
      (fun field hf => h field (List.mem_cons_of_mem _ hf))
    replace hname : key = Naming.propertyKey name := hname
    rw [fieldsText, fieldLine, hname]
    simp only [String.toList_append]
    have hoptional : Reading.Returns (closer :: pending) (if optional then "?" else "").toList := by
      cases optional <;> exact Reading.returns_of_not_mark (by decide) _ _
    have hcolon : Reading.Returns (closer :: pending) ": ".toList :=
      Reading.returns_of_not_mark (by decide) _ _
    have hend : Reading.Returns (closer :: pending) ";\n".toList :=
      Reading.returns_of_not_mark (by decide) _ _
    exact ((((((returns_indent depth closer pending).append (returns_propertyKey name _)).append
      hoptional).append hcolon).append (htype.inside closer pending)).append hend).append hrest

/-- The text of a type is read as one operand, or has a bar in it. -/
theorem Readable.textReturns {type : TypeExpr} (h : Readable type) (depth : Nat) :
    TextReturns (type.text depth).toList := by
  induction h generalizing depth with
  | any => exact .of_words (by simp [text]) (by rw [text]; decide)
  | string => exact .of_words (by simp [text]) (by rw [text]; decide)
  | number => exact .of_words (by simp [text]) (by rw [text]; decide)
  | boolean => exact .of_words (by simp [text]) (by rw [text]; decide)
  | object => exact .of_words (by simp [text]) (by rw [text]; decide)
  | date => exact .of_words (by simp [text]) (by rw [text]; decide)
  | named h =>
    rw [text]
    exact .of_words (by simpa using h.1) h.2
  | literals h =>
    rw [text]
    exact textReturns_union h
  | array _ ih =>
    rw [text]
    obtain ⟨operand, hn, hoperand, htext⟩ := (ih depth).exists_operand
    rw [htext]
    have hbrackets (pending : List Char) : Reading.Returns pending ['[', ']'] :=
      Reading.returns_of_brackets rfl (.nil _)
    exact .of_returns (List.append_ne_nil_of_left_ne_nil hn _) fun pending =>
      (hoperand pending).append (hbrackets pending)
  | nullable _ ih =>
    rw [text]
    exact textReturns_nullable (ih depth)
  | @record fields hk _ ih =>
    have htext : ((TypeExpr.record fields).text depth).toList =
        '{' :: ("\n" ++ fieldsText (depth + 1) fields ++ indent depth).toList ++ ['}'] := by
      rw [text]
      simp
    rw [htext]
    refine .of_returns (by simp) fun pending => Reading.returns_of_brackets rfl ?_
    have hbreak : Reading.Returns ('}' :: pending) "\n".toList :=
      Reading.returns_of_not_mark (by decide) _ _
    rw [String.toList_append, String.toList_append]
    exact (hbreak.append (returns_fieldsText hk (fun field hf => ih field hf _) _ _)).append
      (returns_indent depth _ _)

end TypeExpr

/-- A type that is an array as it is read: one operand, and a pair of brackets for all of it. -/
def Text.IsArrayType (cs : List Char) : Prop :=
  ∃ operand, operand ≠ [] ∧ Reading.Returns [] operand ∧ cs = operand ++ ['[', ']']

namespace TypeExpr

theorem Readable.isArrayType_array {item : TypeExpr} (h : item.Readable) (depth : Nat) :
    Text.IsArrayType ((TypeExpr.array item).text depth).toList := by
  obtain ⟨operand, hn, hoperand, htext⟩ := (h.textReturns depth).exists_operand
  rw [text]
  exact ⟨operand, hn, hoperand [], htext⟩

end TypeExpr

/-- What is read as one operand has no white space at its end. -/
theorem Reading.not_returns_concat_blank (cs : List Char) : ¬Returns [] (cs ++ [' ']) := by
  intro h
  rw [Returns, Reads, List.foldlM_append] at h
  obtain ⟨r, -, hlast⟩ := Option.bind_eq_some_iff.mp h
  replace hlast : next r ' ' = some (code []) := by simpa using hlast
  cases r with
  | code pending =>
    rw [next_code_of_not_mark (by decide)] at hlast
    split at hlast
    · rename_i hinside
      cases hlast
      exact absurd hinside (by decide)
    · cases hlast
  | string pending => cases hlast
  | escape pending => cases hlast

/-- No enumeration is read as an array type, although the last one of its literals may be an empty
array. -/
theorem TypeExpr.not_isArrayType_union (values : List Json) :
    ¬Text.IsArrayType (union values).toList := by
  rintro ⟨operand, hn, hoperand, htext⟩
  rcases bar_of_union_eq_append htext with rfl | ⟨start, rfl⟩
  · exact hn rfl
  · have hblank : start ++ " | ".toList = start ++ [' ', '|'] ++ [' '] := by simp
    rw [hblank] at hoperand
    exact Reading.not_returns_concat_blank _ hoperand

end OpenApiGen
