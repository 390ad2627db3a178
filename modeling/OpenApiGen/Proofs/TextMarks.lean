import OpenApiGen.EntityFile
import OpenApiGen.Proofs.NameLetters
import OpenApiGen.Proofs.SegmentDecoding
import OpenApiGen.Proofs.TypeTexts
import Mathlib.Data.List.Basic

/-!
# Marks in texts

A mark is a name between an at sign and an opening parenthesis, as a decorator is applied. The other
characters of a file keep the texts apart that are put into it: a mark is found in the whole exactly
if it is found in one of them, whether they are quoted, cut into lines or escaped on the way.
-/

namespace OpenApiGen

namespace Text

def markChars (name : List Char) : List Char := '@' :: (name ++ ['('])

def isMarkChar (c : Char) : Bool := c.isAlphanum || c == '@' || c == '('

/-- Where a mark begins, and what it is made of. -/
structure Mark (part : List Char) : Prop where
  head : ∃ rest, part = '@' :: rest
  all : part.all isMarkChar

theorem mark_markChars {name : List Char} (h : name.all Char.isAlphanum) : Mark (markChars name) where
  head := ⟨_, rfl⟩
  all := by
    have hletters : name.all isMarkChar := List.all_eq_true.mpr fun c hc => by
      simp [isMarkChar, List.all_eq_true.mp h c hc]
    have hends : isMarkChar '@' ∧ isMarkChar '(' := by decide
    simp [markChars, hletters, hends]

/-- A text is all that stands in front of a character which it does not have. -/
theorem append_prefix_iff {last : Char} {name other back : List Char} (hname : last ∉ name)
    (hother : last ∉ other) : name ++ [last] <+: other ++ last :: back ↔ name = other := by
  induction name generalizing other with
  | nil =>
    cases other with
    | nil => simp
    | cons d other => simpa using List.ne_of_not_mem_cons hother
  | cons c name ih =>
    cases other with
    | nil =>
      refine iff_of_false (fun hprefix => ?_) (List.cons_ne_nil _ _)
      exact List.ne_of_not_mem_cons hname (List.cons_prefix_cons.mp hprefix).1.symm
    | cons d other =>
      rw [List.cons_append, List.cons_append, List.cons_prefix_cons,
        ih (List.not_mem_of_not_mem_cons hname) (List.not_mem_of_not_mem_cons hother),
        List.cons.injEq]

/-- One of the texts has the part in it. -/
def StandsIn (part : List Char) (texts : List String) : Prop := ∃ s ∈ texts, part <:+: s.toList

section

variable {part : List Char}

@[simp] theorem not_standsIn_nil : ¬StandsIn part [] := by simp [StandsIn]

@[simp] theorem standsIn_cons {s : String} {texts : List String} :
    StandsIn part (s :: texts) ↔ part <:+: s.toList ∨ StandsIn part texts := by simp [StandsIn]

@[simp] theorem standsIn_append {texts more : List String} :
    StandsIn part (texts ++ more) ↔ StandsIn part texts ∨ StandsIn part more := by
  simp [StandsIn, or_and_right, exists_or]

theorem standsIn_flatMap {α : Type} {f : α → List String} {xs : List α} :
    StandsIn part (xs.flatMap f) ↔ ∃ x ∈ xs, StandsIn part (f x) := by
  simp only [StandsIn, List.mem_flatMap]
  constructor
  · rintro ⟨s, ⟨x, hx, hs⟩, hpart⟩
    exact ⟨x, hx, s, hs, hpart⟩
  · rintro ⟨x, hx, s, hs, hpart⟩
    exact ⟨s, ⟨x, hx, hs⟩, hpart⟩

theorem standsIn_map {α : Type} {f : α → String} {xs : List α} :
    StandsIn part (xs.map f) ↔ ∃ x ∈ xs, part <:+: (f x).toList := by
  simp [StandsIn]

end

namespace Mark

variable {part : List Char} (h : Mark part)

include h

theorem not_mem {c : Char} (hc : ¬isMarkChar c) : c ∉ part := fun hmem =>
  hc (List.all_eq_true.mp h.all c hmem)

theorem ne_nil : part ≠ [] := by
  obtain ⟨rest, rfl⟩ := h.head
  exact List.cons_ne_nil _ _

/-- A mark begins at an at sign. -/
theorem skip {front : List Char} (hfront : '@' ∉ front) {back : List Char} :
    part <:+: front ++ back ↔ part <:+: back := by
  obtain ⟨rest, rfl⟩ := h.head
  induction front with
  | nil => rfl
  | cons c front ih =>
    rw [List.mem_cons, not_or] at hfront
    rw [List.cons_append, List.infix_cons_iff, List.cons_prefix_cons, ih hfront.2]
    exact or_iff_right fun hprefix => hfront.1 hprefix.1

theorem skip_char {c : Char} (hc : '@' ≠ c) {back : List Char} :
    part <:+: c :: back ↔ part <:+: back :=
  h.skip fun hmem => hc (List.mem_singleton.mp hmem)

/-- A mark has no other characters than its own, so that it ends in front of them. -/
theorem cut {c : Char} (hc : ¬isMarkChar c) {front back : List Char} :
    part <:+: front ++ c :: back ↔ part <:+: front ∨ part <:+: back :=
  infix_append_cons_iff (h.not_mem hc)

theorem absent {text : List Char} (htext : '@' ∉ text) : ¬part <:+: text := by
  rw [← List.append_nil text, h.skip htext, List.infix_nil]
  exact h.ne_nil

theorem not_standsIn {texts : List String} (htexts : ∀ s ∈ texts, '@' ∉ s.toList) :
    ¬StandsIn part texts := by
  rintro ⟨s, hs, hpart⟩
  exact h.absent (htexts s hs) hpart

theorem drop_back {front back : List Char} (hhead : back.head?.all fun c => !isMarkChar c)
    (hback : '@' ∉ back) : part <:+: front ++ back ↔ part <:+: front := by
  cases back with
  | nil => rw [List.append_nil]
  | cons c back =>
    rw [h.cut (by simpa using hhead), or_iff_left]
    exact h.absent fun hat => hback (List.mem_cons_of_mem _ hat)

theorem infix_intercalate_iff {c : Char} (hc : ¬isMarkChar c) {sep : List Char} (hsep : '@' ∉ sep)
    (texts : List (List Char)) :
    part <:+: (c :: sep).intercalate texts ↔ ∃ text ∈ texts, part <:+: text := by
  induction texts with
  | nil => simp [List.intercalate, h.ne_nil]
  | cons text texts ih =>
    cases texts with
    | nil => simp [List.intercalate_singleton]
    | cons next rest =>
      rw [List.intercalate_cons_cons, List.append_assoc, List.cons_append, h.cut hc, h.skip hsep, ih]
      exact (List.exists_mem_cons_iff ..).symm

/-- Lines that follow each other. -/
theorem infix_join_lines_iff {α : Type} (line : α → String) (xs : List α) (back : List Char) :
    part <:+: (String.join (xs.map fun x => line x ++ "\n")).toList ++ back ↔
      (∃ x ∈ xs, part <:+: (line x).toList) ∨ part <:+: back := by
  induction xs with
  | nil => simp [String.join]
  | cons x xs ih =>
    have hline : (line x ++ "\n").toList = (line x).toList ++ ['\n'] := by simp
    rw [List.map_cons, String.join_cons, String.toList_append, hline, List.append_assoc,
      List.append_assoc, List.singleton_append, h.cut (by decide), ih, List.exists_mem_cons_iff,
      or_assoc]

end Mark

/-- A mark has one name. -/
theorem infix_markChars_append_iff {name other : List Char} (h : name.all Char.isAlphanum)
    (hother : other.all Char.isAlphanum) {back : List Char} :
    markChars name <:+: markChars other ++ back ↔ name = other ∨ markChars name <:+: back := by
  have hletters {letters : List Char} {c : Char} (hall : letters.all Char.isAlphanum)
      (hc : ¬c.isAlphanum) : c ∉ letters := fun hmem => hc (List.all_eq_true.mp hall c hmem)
  have hat : '@' ∉ other ++ ['('] := by
    rw [List.mem_append, not_or]
    exact ⟨hletters hother (by decide), by decide⟩
  have hback : markChars other ++ back = '@' :: (other ++ '(' :: back) := by simp [markChars]
  rw [hback, List.infix_cons_iff, markChars, List.cons_prefix_cons, and_iff_right rfl,
    append_prefix_iff (hletters h (by decide)) (hletters hother (by decide)), List.append_cons other]
  exact or_congr_right ((mark_markChars h).skip hat)

/-! ## Pieces written otherwise -/

/-- The second text is the first one with some pieces written otherwise, none of which a mark can
begin in or go on with. -/
inductive Respelled : List Char → List Char → Prop
  | nil : Respelled [] []
  | keep {cs ds : List Char} (c : Char) (rest : Respelled cs ds) : Respelled (c :: cs) (c :: ds)
  | change {a b : Char} {front back cs ds : List Char} (ha : ¬isMarkChar a) (hb : ¬isMarkChar b)
      (hfront : '@' ∉ front) (hback : '@' ∉ back) (rest : Respelled cs ds) :
      Respelled (a :: front ++ cs) (b :: back ++ ds)

namespace Respelled

theorem refl (cs : List Char) : Respelled cs cs := by
  induction cs with
  | nil => exact .nil
  | cons c cs ih => exact .keep c ih

theorem symm {cs ds : List Char} (h : Respelled cs ds) : Respelled ds cs := by
  induction h with
  | nil => exact .nil
  | keep c _ ih => exact .keep c ih
  | change ha hb hfront hback _ ih => exact .change hb ha hback hfront ih

theorem prefix_imp {cs ds : List Char} (h : Respelled cs ds) {part : List Char}
    (hpart : part.all isMarkChar) (hcs : part <+: cs) : part <+: ds := by
  induction h generalizing part with
  | nil => exact hcs
  | keep c _ ih =>
    cases part with
    | nil => exact List.nil_prefix
    | cons d part =>
      rw [List.all_cons, Bool.and_eq_true] at hpart
      rw [List.cons_prefix_cons] at hcs ⊢
      exact ⟨hcs.1, ih hpart.2 hcs.2⟩
  | change ha _ _ _ _ ih =>
    cases part with
    | nil => exact List.nil_prefix
    | cons d part =>
      rw [List.all_cons, Bool.and_eq_true] at hpart
      rw [List.cons_append, List.cons_prefix_cons] at hcs
      exact absurd (hcs.1 ▸ hpart.1) ha

theorem infix_imp {cs ds : List Char} (h : Respelled cs ds) {part : List Char}
    (hpart : Mark part) (hcs : part <:+: cs) : part <:+: ds := by
  induction h with
  | nil => exact hcs
  | keep c rest ih =>
    rw [List.infix_cons_iff] at hcs ⊢
    exact hcs.imp ((rest.keep c).prefix_imp hpart.all) ih
  | @change a b front back cs ds ha hb hfront hback rest ih =>
    have hplain : ∀ {c : Char} {more : List Char}, ¬isMarkChar c → '@' ∉ more → '@' ∉ c :: more := by
      intro c more hc hmore hmem
      rcases List.mem_cons.mp hmem with rfl | hmem
      · exact hc (by decide)
      · exact hmore hmem
    rw [hpart.skip (hplain ha hfront)] at hcs
    rw [hpart.skip (hplain hb hback)]
    exact ih hcs

theorem infix_iff {cs ds : List Char} (h : Respelled cs ds) {part : List Char} (hpart : Mark part) :
    part <:+: cs ↔ part <:+: ds :=
  ⟨h.infix_imp hpart, h.symm.infix_imp hpart⟩

end Respelled

theorem respelled_replacePair {a b : Char} (ha : ¬isMarkChar a) (hb : '@' ≠ b) {new : List Char}
    (hnew : '@' ∉ new) (cs : List Char) : Respelled cs (replacePair a b (a :: new) cs) := by
  fun_induction replacePair a b (a :: new) cs with
  | case1 x y rest hpair ih =>
    obtain ⟨rfl, rfl⟩ := hpair
    exact .change ha ha (fun hmem => hb (List.mem_singleton.mp hmem)) hnew ih
  | case2 x y rest _ ih => exact .keep x ih
  | case3 cs => exact .refl cs

namespace Mark

variable {part : List Char} (h : Mark part)

include h

theorem infix_dropReturn_iff (line : List Char) : part <:+: dropReturn line ↔ part <:+: line := by
  unfold dropReturn
  cases hfront : before? ['\r'] line with
  | none => rfl
  | some front =>
    rw [before?_eq_some_iff.mp hfront, h.drop_back (by decide) (by decide)]
    rfl

theorem exists_mem_terminated_iff (pieces : List (List Char)) :
    (∃ line ∈ terminated pieces, part <:+: line) ↔ ∃ piece ∈ pieces, part <:+: piece := by
  fun_induction terminated pieces with
  | case1 => rfl
  | case2 last hlast =>
    rw [List.isEmpty_iff.mp hlast]
    simp [h.ne_nil]
  | case3 last _ => rfl
  | case4 piece rest _ ih =>
    rw [List.exists_mem_cons_iff, List.exists_mem_cons_iff, h.infix_dropReturn_iff, ih]

/-- The lines of a text. -/
theorem exists_mem_lines_iff (cs : List Char) :
    (∃ line ∈ lines cs, part <:+: line) ↔ part <:+: cs := by
  rw [lines, h.exists_mem_terminated_iff,
    ← h.infix_intercalate_iff (c := '\n') (by decide) List.not_mem_nil, List.intercalate_splitOn]

end Mark

end Text

/-! ## Values and types -/

namespace Json

open Text

mutual

/-- The strings in a value, keys included, in the order of its text. -/
def strings : Json → List String
  | .string s => [s]
  | .array items => itemsStrings items
  | .object entries => entriesStrings entries
  | .null | .boolean _ | .number _ => []

def itemsStrings : List Json → List String
  | [] => []
  | item :: items => strings item ++ itemsStrings items

def entriesStrings : List (String × Json) → List String
  | [] => []
  | (key, value) :: entries => key :: strings value ++ entriesStrings entries

end

theorem le_toNat_of_isMarkChar {c : Char} (h : isMarkChar c) : 32 ≤ c.toNat := by
  rw [isMarkChar, Bool.or_eq_true, Bool.or_eq_true, isAlphanum_iff] at h
  rcases h with (hname | hat) | hopen
  · omega
  · rw [eq_of_beq hat]
    decide
  · rw [eq_of_beq hopen]
    decide

theorem hexDigit_ne_at (n : Nat) : '@' ≠ hexDigit n := by
  have hall : ∀ m < 16, '@' ≠ (Nat.toDigits 16 m).headD '0' := by decide
  exact hall (n % 16) (Nat.mod_lt n (by decide))

/-- What is escaped has no part in a mark, nor has the backslash. -/
theorem escape_eq_or (c : Char) : escape c = [c] ∨
    ¬isMarkChar c ∧ ∃ rest, escape c = '\\' :: rest ∧ '@' ∉ rest := by
  by_cases hlisted : c ∈ ['"', '\\', '\n', '\r', '\t', '\x08', '\x0c']
  · simp only [List.mem_cons, List.not_mem_nil, or_false] at hlisted
    rcases hlisted with rfl | rfl | rfl | rfl | rfl | rfl | rfl <;>
      exact .inr ⟨by decide, _, rfl, by decide⟩
  · simp only [List.mem_cons, List.not_mem_nil, or_false, not_or] at hlisted
    obtain ⟨hquote, hslash, hfeed, hreturn, htab, hback, hform⟩ := hlisted
    rw [escape, if_neg hquote, if_neg hslash, if_neg hfeed, if_neg hreturn, if_neg htab,
      if_neg hback, if_neg hform]
    split
    · rename_i hcontrol
      refine .inr ⟨fun hmark => Nat.not_le.mpr hcontrol (le_toNat_of_isMarkChar hmark), _, rfl, ?_⟩
      simp [hexDigit_ne_at]
    · exact .inl rfl

theorem respelled_escaped (cs : List Char) : Respelled cs (cs.flatMap escape) := by
  induction cs with
  | nil => exact .nil
  | cons c cs ih =>
    rw [List.flatMap_cons]
    rcases escape_eq_or c with hsame | ⟨hc, rest, hescape, hrest⟩
    · rw [hsame]
      exact .keep c ih
    · rw [hescape]
      have hchange := Respelled.change hc (by decide : ¬isMarkChar '\\') List.not_mem_nil hrest ih
      exact hchange

end Json

namespace Text.Mark

variable {part : List Char} (h : Mark part)

include h

theorem infix_quote_iff (s : String) : part <:+: (Json.quote s).toList ↔ part <:+: s.toList := by
  rw [Json.quote, String.toList_ofList, Json.quoteChars, List.cons_append, h.skip_char (by decide),
    h.drop_back (by decide) (by decide), ← (Json.respelled_escaped s.toList).infix_iff h]

theorem not_infix_number (n : Number) : ¬part <:+: n.text.toList := by
  refine h.absent fun hmem => ?_
  have hnumeral := List.all_eq_true.mp n.all_text _ hmem
  exact absurd hnumeral (by decide)

mutual

theorem infix_text_iff : (value : Json) →
    (part <:+: value.text.toList ↔ StandsIn part value.strings)
  | .null => by
    rw [Json.text, Json.strings]
    exact iff_of_false (h.absent (by decide)) not_standsIn_nil
  | .boolean b => by
    rw [Json.text, Json.strings]
    refine iff_of_false (h.absent ?_) not_standsIn_nil
    cases b <;> decide
  | .number n => by
    rw [Json.text, Json.strings]
    exact iff_of_false (h.not_infix_number n) not_standsIn_nil
  | .string s => by
    rw [Json.text, Json.strings, h.infix_quote_iff, standsIn_cons, or_iff_left not_standsIn_nil]
  | .array [] => by
    rw [Json.text, Json.strings, Json.itemsStrings]
    exact iff_of_false (h.absent (by decide)) not_standsIn_nil
  | .array (item :: items) => by
    rw [Json.text, Json.strings, Json.itemsStrings, standsIn_append, ← infix_text_iff item,
      ← infix_itemsText_iff items]
    simp only [String.toList_append, List.append_assoc]
    exact h.skip (by decide)
  | .object [] => by
    rw [Json.text, Json.strings, Json.entriesStrings]
    exact iff_of_false (h.absent (by decide)) not_standsIn_nil
  | .object ((key, value) :: entries) => by
    rw [Json.text, Json.strings, Json.entriesStrings, List.cons_append, standsIn_cons,
      standsIn_append, ← infix_text_iff value, ← infix_entriesText_iff entries]
    simp only [String.toList_append, List.append_assoc]
    rw [h.skip (by decide), ← h.infix_quote_iff key]
    exact h.cut (by decide)

/-- Items follow behind another text. -/
theorem infix_itemsText_iff : (items : List Json) → {front : List Char} →
    (part <:+: front ++ (Json.itemsText items).toList ↔
      part <:+: front ∨ StandsIn part (Json.itemsStrings items))
  | [], front => by
    rw [Json.itemsText, Json.itemsStrings, or_iff_left not_standsIn_nil]
    exact h.drop_back (by decide) (by decide)
  | item :: items, front => by
    rw [Json.itemsText, Json.itemsStrings, standsIn_append, ← infix_text_iff item,
      ← infix_itemsText_iff items]
    simp only [String.toList_append, List.append_assoc]
    exact h.cut (by decide)

theorem infix_entriesText_iff : (entries : List (String × Json)) → {front : List Char} →
    (part <:+: front ++ (Json.entriesText entries).toList ↔
      part <:+: front ∨ StandsIn part (Json.entriesStrings entries))
  | [], front => by
    rw [Json.entriesText, Json.entriesStrings, or_iff_left not_standsIn_nil]
    exact h.drop_back (by decide) (by decide)
  | (key, value) :: entries, front => by
    have hmarks : ",".toList = [','] ∧ ":".toList = [':'] := ⟨rfl, rfl⟩
    rw [Json.entriesText, Json.entriesStrings, List.cons_append, standsIn_cons, standsIn_append,
      ← infix_text_iff value, ← infix_entriesText_iff entries]
    simp only [String.toList_append, List.append_assoc, hmarks, List.cons_append, List.nil_append]
    rw [h.cut (by decide), h.cut (by decide), h.infix_quote_iff]

end

end Text.Mark

namespace TypeExpr

mutual

/-- The strings in a type: names, keys as they are written, and what stands in literals. -/
def strings : TypeExpr → List String
  | .named name => [name]
  | .literals values => values.flatMap Json.strings
  | .array item => strings item
  | .nullable type => strings type
  | .record fields => fieldsStrings fields
  | .any | .string | .number | .boolean | .object | .date => []

def fieldsStrings : List (String × Bool × TypeExpr) → List String
  | [] => []
  | (key, _, type) :: fields => key :: strings type ++ fieldsStrings fields

end

theorem eq_of_mem_indent {depth : Nat} {c : Char} (h : c ∈ (indent depth).toList) : c = ' ' := by
  rw [indent, String.toList_ofList] at h
  exact (List.mem_replicate.mp h).2

end TypeExpr

namespace Text.Mark

variable {part : List Char} (h : Mark part)

include h

theorem infix_texts_iff {c : Char} (hc : ¬isMarkChar c) {sep : List Char} (hsep : '@' ∉ sep)
    (values : List Json) :
    part <:+: (c :: sep).intercalate (values.map fun value => value.text.toList) ↔
      StandsIn part (values.flatMap Json.strings) := by
  simp only [h.infix_intercalate_iff hc hsep, standsIn_flatMap, List.mem_map, exists_exists_and_eq_and,
    h.infix_text_iff]

theorem infix_arrayOfText_iff (item : String) :
    part <:+: (TypeExpr.arrayOfText item).toList ↔ part <:+: item.toList := by
  by_cases hbar : " | ".toList <:+: item.toList
  · rw [TypeExpr.toList_arrayOfText_of_bar hbar, List.cons_append, List.cons_append,
      h.skip_char (by decide), List.append_assoc]
    exact h.drop_back (by decide) (by decide)
  · rw [TypeExpr.toList_arrayOfText hbar]
    exact h.drop_back (by decide) (by decide)

/-- A field, with what follows. -/
theorem infix_fieldLine_append_iff (depth : Nat) (key : String) (optional : Bool) (type : String)
    (back : List Char) :
    part <:+: (TypeExpr.fieldLine depth key optional type).toList ++ back ↔
      part <:+: key.toList ∨ part <:+: type.toList ∨ part <:+: back := by
  have htype : part <:+: ": ".toList ++ (type.toList ++ (";\n".toList ++ back)) ↔
      part <:+: type.toList ∨ part <:+: back := by
    rw [h.skip (by decide)]
    exact (h.cut (c := ';') (by decide)).trans (or_congr_right (h.skip_char (by decide)))
  unfold TypeExpr.fieldLine
  simp only [String.toList_append, List.append_assoc]
  rw [h.skip fun hat => absurd (TypeExpr.eq_of_mem_indent hat) (by decide), ← htype]
  cases optional with
  | false => exact (h.cut (c := ':') (by decide)).trans (or_congr_right (h.skip_char (by decide)).symm)
  | true => exact h.cut (c := '?') (by decide)

mutual

theorem infix_type_iff (depth : Nat) : (type : TypeExpr) →
    (part <:+: (type.text depth).toList ↔ StandsIn part type.strings)
  | .any | .string | .number | .boolean | .object | .date => by
    rw [TypeExpr.text, TypeExpr.strings]
    exact iff_of_false (h.absent (by decide)) not_standsIn_nil
  | .named name => by
    rw [TypeExpr.text, TypeExpr.strings, standsIn_cons, or_iff_left not_standsIn_nil]
  | .literals values => by
    rw [TypeExpr.text, TypeExpr.strings, TypeExpr.union, String.toList_intercalate, List.map_map]
    exact h.infix_texts_iff (by decide) (by decide) values
  | .array item => by
    rw [TypeExpr.text, TypeExpr.strings, h.infix_arrayOfText_iff, infix_type_iff depth item]
  | .nullable type => by
    rw [TypeExpr.text, TypeExpr.strings, String.toList_append, ← infix_type_iff depth type]
    exact h.drop_back (by decide) (by decide)
  | .record fields => by
    rw [TypeExpr.text, TypeExpr.strings, ← infix_fieldsText_iff (depth + 1) fields]
    simp only [String.toList_append, List.append_assoc]
    rw [h.skip (by decide)]
    have hmem : ∀ c ∈ (TypeExpr.indent depth).toList ++ "\x7d".toList, c = ' ' ∨ c = '\x7d' :=
      fun c hc => (List.mem_append.mp hc).imp TypeExpr.eq_of_mem_indent List.mem_singleton.mp
    refine h.drop_back ?_ fun hat => absurd (hmem '@' hat) (by decide)
    cases hhead : ((TypeExpr.indent depth).toList ++ "\x7d".toList).head? with
    | none => rfl
    | some c => rcases hmem c (List.mem_of_head? hhead) with rfl | rfl <;> rfl

theorem infix_fieldsText_iff (depth : Nat) : (fields : List (String × Bool × TypeExpr)) →
    (part <:+: (TypeExpr.fieldsText depth fields).toList ↔
      StandsIn part (TypeExpr.fieldsStrings fields))
  | [] => by
    rw [TypeExpr.fieldsText, TypeExpr.fieldsStrings]
    exact iff_of_false (h.absent (by decide)) not_standsIn_nil
  | (key, optional, type) :: fields => by
    rw [TypeExpr.fieldsText, TypeExpr.fieldsStrings, String.toList_append,
      h.infix_fieldLine_append_iff, List.cons_append, standsIn_cons, standsIn_append,
      infix_type_iff depth type, infix_fieldsText_iff depth fields]

end

end Text.Mark

end OpenApiGen
