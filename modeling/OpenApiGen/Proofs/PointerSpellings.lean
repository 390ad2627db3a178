import OpenApiGen.Proofs.SegmentDecoding
import Mathlib.Data.List.Forall2

/-!
# The spellings of a name in a pointer

A name is put into a pointer with its tildes and slashes escaped, and the pointer into a URL with
the bytes of any character escaped, those of a percent sign always. A reference with such a spelling
leads to the name exactly if no character of an escape of the pointer is escaped in its turn.
-/

namespace OpenApiGen

namespace Percent

/-! ## Escapes of bytes -/

/-- The hexadecimal digit of a number, in small or in capital letters. -/
def IsDigit (n : Nat) (c : Char) : Prop := c = n.digitChar ∨ c = n.digitChar.toUpper

/-- A percent sign and two digits for each byte. -/
inductive Escapes : List UInt8 → List Char → Prop
  | nil : Escapes [] []
  | cons {b bytes c d cs} (hc : IsDigit (b.toNat / 16) c) (hd : IsDigit (b.toNat % 16) d)
      (h : Escapes bytes cs) : Escapes (b :: bytes) ('%' :: c :: d :: cs)

/-- A character stands for itself, unless it is a percent sign, or its bytes are escaped. -/
inductive Spells (c : Char) : List Char → Prop
  | plain (h : c ≠ '%') : Spells c [c]
  | escaped {cs} (h : Escapes (String.utf8EncodeChar c) cs) : Spells c cs

variable {n : Nat} {c mark : Char} {cs : List Char}

theorem IsDigit.hex? (h : IsDigit n c) (hn : n < 16) : hex? c = some n := by
  rcases h with rfl | rfl
  · revert n
    decide
  · revert n
    decide

theorem Escapes.decode_append {bytes : List UInt8} (h : Escapes bytes cs) (rest : List Char) :
    decode (cs ++ rest) = bytes.map UInt8.toNat ++ decode rest := by
  induction h with
  | nil => rfl
  | @cons b bytes c d cs hc hd _ ih =>
    have hlt : b.toNat < 256 := b.toNat_lt
    have hbyte : byte? c d = some b.toNat := by
      rw [byte?, hc.hex? (by omega), hd.hex? (by omega)]
      exact congrArg some (Nat.div_add_mod' ..)
    rw [List.cons_append, List.cons_append, List.cons_append, decode_escape hbyte, ih,
      List.map_cons, List.cons_append]

theorem Escapes.mark_not_mem {bytes : List UInt8} (h : Escapes bytes cs) (hp : mark ≠ '%')
    (hmark : Percent.hex? mark = none) : mark ∉ cs := by
  induction h with
  | nil => exact List.not_mem_nil
  | @cons b bytes c d cs hc hd _ ih =>
    have hlt : b.toNat < 256 := b.toNat_lt
    have hdigit : ∀ {n e}, n < 16 → IsDigit n e → mark ≠ e := by
      rintro n e hn he rfl
      cases hmark.symm.trans (he.hex? hn)
    simp only [List.mem_cons, not_or]
    exact ⟨hp, hdigit (by omega) hc, hdigit (by omega) hd, ih⟩

theorem Spells.decode_append (h : Spells c cs) (rest : List Char) :
    decode (cs ++ rest) = Utf8.encodeChar c ++ decode rest := by
  cases h with
  | plain hc => exact decode_other hc
  | escaped h => rw [h.decode_append, Utf8.map_toNat_utf8EncodeChar]

theorem Spells.mark_not_mem (h : Spells c cs) (hc : mark ≠ c) (hp : mark ≠ '%')
    (hmark : hex? mark = none) : mark ∉ cs := by
  cases h with
  | plain => exact List.not_mem_cons_of_ne_of_not_mem hc List.not_mem_nil
  | escaped h => exact h.mark_not_mem hp hmark

/-- What is spelled otherwise than as itself has no tilde in it, and begins with a percent sign. -/
theorem Spells.plain_or (h : Spells c cs) : cs = [c] ∨ '~' ∉ cs ∧ cs.head? = some '%' := by
  cases h with
  | plain hc => exact .inl rfl
  | escaped h =>
    refine .inr ⟨h.mark_not_mem (by decide) (by decide), ?_⟩
    cases hbytes : String.utf8EncodeChar c with
    | nil => exact absurd hbytes String.utf8EncodeChar_ne_nil
    | cons b bytes =>
      rw [hbytes] at h
      cases h
      rfl

/-! ## Several characters -/

variable {parts : List (List Char)}

theorem decode_flatten_append (h : List.Forall₂ Spells cs parts) (rest : List Char) :
    decode (parts.flatten ++ rest) = Utf8.encode cs ++ decode rest := by
  induction h with
  | nil => rfl
  | @cons c part cs parts hc _ ih =>
    have hcons : Utf8.encode (c :: cs) = Utf8.encodeChar c ++ Utf8.encode cs := List.flatMap_cons
    rw [List.flatten_cons, List.append_assoc, hc.decode_append, ih, hcons, List.append_assoc]

theorem mark_not_mem_flatten (h : List.Forall₂ Spells cs parts) (hcs : mark ∉ cs) (hp : mark ≠ '%')
    (hmark : hex? mark = none) : mark ∉ parts.flatten := by
  induction h with
  | nil => exact List.not_mem_nil
  | cons hc _ ih =>
    rw [List.mem_cons, not_or] at hcs
    rw [List.flatten_cons, List.mem_append, not_or]
    exact ⟨hc.mark_not_mem hcs.1 hp hmark, ih hcs.2⟩

end Percent

namespace Text

variable {a b : Char} {new cs : List Char}

theorem replacePair_of_not_mem (h : a ∉ cs) : replacePair a b new cs = cs := by
  induction cs with
  | nil => rfl
  | cons c cs ih =>
    rw [List.mem_cons, not_or] at h
    rw [replacePair_cons fun hpair => h.1 hpair.1.symm, ih h.2]

theorem replacePair_flatMap {α : Type} {f : α → List Char} {xs : List α}
    (h : ∀ x ∈ xs, (f x).getLast? ≠ some a) :
    replacePair a b new (xs.flatMap f) = xs.flatMap fun x => replacePair a b new (f x) := by
  induction xs with
  | nil => rfl
  | cons x xs ih =>
    rw [List.flatMap_cons, List.flatMap_cons, replacePair_append (h x (List.mem_cons_self ..)),
      ih fun y hy => h y (List.mem_cons_of_mem _ hy)]

end Text

namespace Reference

/-! ## Spellings of names -/

/-- What a character of a name is written as in a pointer. -/
def escape (c : Char) : List Char :=
  if c = '~' then ['~', '0'] else if c = '/' then ['~', '1'] else [c]

/-- A character of a name as it is written in the pointer of a URL: each character that it is
written as is spelled in one of its ways. -/
def SpelledAs (c : Char) (piece : List Char) : Prop :=
  ∃ parts, List.Forall₂ Percent.Spells (escape c) parts ∧ piece = parts.flatten

/-- The escape of a tilde or of a slash is spelled without an escape of its own. -/
def EscapeBare (c : Char) (piece : List Char) : Prop := c = '~' ∨ c = '/' → piece = escape c

instance (c : Char) (piece : List Char) : Decidable (EscapeBare c piece) :=
  inferInstanceAs (Decidable (_ → _))

/-- What is read for a character that is spelled in this way. -/
def readAs (entry : Char × List Char) : List Char :=
  if EscapeBare entry.1 entry.2 then [entry.1] else escape entry.1

/-- A piece after its escapes of slashes and then those of tildes are undone. -/
def unescape (piece : List Char) : List Char :=
  Text.replacePair '~' '0' ['~'] (Text.replacePair '~' '1' ['/'] piece)

variable {c : Char} {piece : List Char}

theorem escape_of_ne (ht : c ≠ '~') (hs : c ≠ '/') : escape c = [c] := by
  rw [escape, if_neg ht, if_neg hs]

/-- A piece of a text that no replacement of a pair changes, and at whose end no pair begins. -/
def Inert (piece : List Char) : Prop :=
  piece.getLast? ≠ some '~' ∧
    ∀ {digit new}, digit ≠ '%' → Text.replacePair '~' digit new piece = piece

theorem inert_of_not_mem (h : '~' ∉ piece) : Inert piece := by
  refine ⟨fun hlast => h (List.mem_of_getLast? hlast), fun _ => ?_⟩
  exact Text.replacePair_of_not_mem h

/-- The escape of a pointer stands as it is, or has no pair in it that means something. -/
theorem eq_or_inert_of_pair {digit : Char} {parts : List (List Char)} (ht : digit ≠ '~')
    (hp : digit ≠ '%') (h : List.Forall₂ Percent.Spells ['~', digit] parts) :
    parts.flatten = ['~', digit] ∨ parts.flatten ≠ ['~', digit] ∧ Inert parts.flatten := by
  cases h with
  | @cons _ first _ parts hfirst h =>
  cases h with
  | @cons _ second _ parts hsecond h =>
  cases h
  have hflatten : [first, second].flatten = first ++ second := by simp
  rw [hflatten]
  rcases hfirst.plain_or with rfl | ⟨hfirst, -⟩
  · rcases hsecond.plain_or with rfl | ⟨hsecond, hhead⟩
    · exact .inl rfl
    · refine .inr ⟨?_, ?_, fun {other new} hother => ?_⟩
      · intro heq
        have hsame : second = [digit] := List.append_cancel_left heq
        rw [hsame] at hhead
        exact hp (Option.some.inj hhead)
      · cases second with
        | nil => cases hhead
        | cons d second =>
          rw [List.singleton_append, List.getLast?_cons_cons]
          exact fun hlast => hsecond (List.mem_of_getLast? hlast)
      · have hpair : ¬('~' = '~' ∧ second.head? = some other) := by
          rw [hhead]
          rintro ⟨-, heq⟩
          exact hother (Option.some.inj heq).symm
        rw [List.singleton_append, Text.replacePair_cons hpair, Text.replacePair_of_not_mem hsecond]
  · have hmem : '~' ∉ first ++ second := by
      rw [List.mem_append, not_or]
      refine ⟨hfirst, ?_⟩
      rcases hsecond.plain_or with rfl | ⟨hsecond, -⟩
      · simpa using ht.symm
      · exact hsecond
    refine .inr ⟨?_, inert_of_not_mem hmem⟩
    intro heq
    rw [heq] at hmem
    exact hmem (List.mem_cons_self ..)

/-- What becomes of a piece that spells a character: it ends in no tilde, before its escapes of
slashes are undone and after, and once those of tildes are undone, too, it stands for what is
read. -/
structure Unescapes (c : Char) (piece : List Char) : Prop where
  last : piece.getLast? ≠ some '~'
  last_slashes : (Text.replacePair '~' '1' ['/'] piece).getLast? ≠ some '~'
  decodes : ∀ rest, Percent.decode (unescape piece ++ rest) =
    Utf8.encode (readAs (c, piece)) ++ Percent.decode rest

theorem unescapes_of_inert {parts : List (List Char)}
    (hparts : List.Forall₂ Percent.Spells (escape c) parts) (h : Inert parts.flatten)
    (hread : readAs (c, parts.flatten) = escape c) : Unescapes c parts.flatten := by
  obtain ⟨hlast, hreplace⟩ := h
  have hslashes : Text.replacePair '~' '1' ['/'] parts.flatten = parts.flatten :=
    hreplace (by decide)
  have hundone : unescape parts.flatten = parts.flatten := by
    rw [unescape, hslashes, hreplace (by decide)]
  refine ⟨hlast, ?_, fun rest => ?_⟩
  · rwa [hslashes]
  · rw [hundone, hread, Percent.decode_flatten_append hparts]

/-- Tildes and slashes, which have an escape. -/
theorem unescapes_of_pair {digit : Char} {parts : List (List Char)} (hc : c = '~' ∨ c = '/')
    (hescape : escape c = ['~', digit]) (ht : digit ≠ '~') (hp : digit ≠ '%')
    (hbare : Unescapes c ['~', digit]) (h : List.Forall₂ Percent.Spells (escape c) parts) :
    Unescapes c parts.flatten := by
  rcases eq_or_inert_of_pair ht hp (hescape ▸ h) with heq | ⟨hne, hinert⟩
  · rwa [heq]
  · refine unescapes_of_inert h hinert ?_
    rw [readAs, if_neg fun hbare => hne ((hbare hc).trans hescape)]

theorem SpelledAs.unescapes (h : SpelledAs c piece) : Unescapes c piece := by
  obtain ⟨parts, hparts, rfl⟩ := h
  by_cases ht : c = '~'
  · have hbare : Unescapes '~' ['~', '0'] := by
      refine ⟨by decide, by decide, fun rest => ?_⟩
      have hplain : '~' ≠ '%' := by decide
      exact Percent.decode_other hplain
    subst ht
    exact unescapes_of_pair (.inl rfl) rfl (by decide) (by decide) hbare hparts
  by_cases hs : c = '/'
  · have hbare : Unescapes '/' ['~', '1'] := by
      refine ⟨by decide, by decide, fun rest => ?_⟩
      have hplain : '/' ≠ '%' := by decide
      exact Percent.decode_other hplain
    subst hs
    exact unescapes_of_pair (.inr rfl) rfl (by decide) (by decide) hbare hparts
  have hescape := escape_of_ne ht hs
  have hbare : EscapeBare c parts.flatten := fun hc => absurd hc (not_or.mpr ⟨ht, hs⟩)
  have hmem : '~' ∉ parts.flatten := by
    refine Percent.mark_not_mem_flatten hparts ?_ (by decide) (by decide)
    rw [hescape]
    simpa using Ne.symm ht
  refine unescapes_of_inert hparts (inert_of_not_mem hmem) ?_
  rw [readAs, if_pos hbare, hescape]

theorem SpelledAs.slash_not_mem (h : SpelledAs c piece) : '/' ∉ piece := by
  obtain ⟨parts, hparts, rfl⟩ := h
  refine Percent.mark_not_mem_flatten hparts ?_ (by decide) (by decide)
  by_cases hs : c = '/'
  · subst hs
    decide
  by_cases ht : c = '~'
  · subst ht
    decide
  rw [escape_of_ne ht hs]
  simpa using Ne.symm hs

variable {name : String} {spelling : List (Char × List Char)}

/-- A spelled name is read one character after the other. -/
theorem decodeSegment_of_spelling (h : ∀ entry ∈ spelling, SpelledAs entry.1 entry.2) :
    decodeSegment (spelling.flatMap Prod.snd) = spelling.flatMap readAs := by
  have hbytes : Percent.decode (spelling.flatMap fun entry => unescape entry.2) =
      Utf8.encode (spelling.flatMap readAs) := by
    induction spelling with
    | nil => rfl
    | cons entry spelling ih =>
      rw [List.flatMap_cons, (h entry (List.mem_cons_self ..)).unescapes.decodes,
        ih fun other hother => h other (List.mem_cons_of_mem _ hother), List.flatMap_cons]
      exact List.flatMap_append.symm
  unfold decodeSegment
  dsimp only
  rw [Text.replacePair_flatMap fun entry he => (h entry he).unescapes.last,
    Text.replacePair_flatMap fun entry he => (h entry he).unescapes.last_slashes]
  exact (congrArg Utf8.decode hbytes).trans (Utf8.decode_encode _)

/-- A reference with one segment behind the section leads to the name that this segment has, if it
has one. -/
theorem componentName?_of_segment {segment : List Char} (hslash : '/' ∉ segment)
    (hne : decodeSegment segment ≠ []) :
    componentName? ("#/components/schemas/" ++ String.ofList segment) .schemas =
      some (String.ofList (decodeSegment segment)) := by
  have hreference : ("#/components/schemas/" ++ String.ofList segment).toList =
      ['#', '/'] ++ ("components".toList ++ '/' :: ("schemas".toList ++ '/' :: segment)) := by
    rw [String.toList_append]
    simp
  have hsplit : ("components".toList ++ '/' :: ("schemas".toList ++ '/' :: segment)).splitOn '/' =
      ["components".toList, "schemas".toList, segment] := by
    rw [List.splitOn_append_cons_self_of_not_mem (by decide),
      List.splitOn_append_cons_self_of_not_mem (by decide), List.splitOn_eq_singleton hslash]
  unfold componentName?
  rw [hreference, Text.after?_append]
  dsimp only
  rw [hsplit]
  dsimp only
  rw [if_pos ⟨rfl, rfl⟩, if_neg (by simpa using hne)]

/-- A character is read as itself exactly if the escape that it has in pointers, if any, is bare;
otherwise two characters are read. -/
theorem length_readAs (entry : Char × List Char) :
    (readAs entry).length = if EscapeBare entry.1 entry.2 then 1 else 2 := by
  unfold readAs
  split
  · rfl
  · rename_i hbare
    unfold EscapeBare at hbare
    push Not at hbare
    rcases hbare.1 with heq | heq <;> rw [heq] <;> rfl

theorem length_le_length_flatMap_readAs (spelling : List (Char × List Char)) :
    spelling.length ≤ (spelling.flatMap readAs).length := by
  induction spelling with
  | nil => exact Nat.zero_le _
  | cons entry spelling ih =>
    rw [List.flatMap_cons, List.length_append, length_readAs, List.length_cons]
    split <;> omega

theorem flatMap_readAs_eq_iff :
    spelling.flatMap readAs = spelling.map Prod.fst ↔
      ∀ entry ∈ spelling, EscapeBare entry.1 entry.2 := by
  constructor
  · intro heq
    replace heq := congrArg List.length heq
    rw [List.length_map] at heq
    induction spelling with
    | nil => exact fun _ hmem => absurd hmem List.not_mem_nil
    | cons entry spelling ih =>
      have hle := length_le_length_flatMap_readAs spelling
      rw [List.flatMap_cons, List.length_append, length_readAs, List.length_cons] at heq
      split at heq
      · rename_i hbare
        intro other hother
        rcases List.mem_cons.mp hother with rfl | hother
        · exact hbare
        · exact ih (by omega) other hother
      · omega
  · intro h
    induction spelling with
    | nil => rfl
    | cons entry spelling ih =>
      rw [List.flatMap_cons, List.map_cons, readAs, if_pos (h entry (List.mem_cons_self ..)),
        ih fun other hother => h other (List.mem_cons_of_mem _ hother), List.singleton_append]

/-- No more is escaped than has to be. -/
def barePiece (c : Char) : List Char := if c = '%' then ['%', '2', '5'] else escape c

theorem spelledAs_barePiece (c : Char) : SpelledAs c (barePiece c) := by
  by_cases hc : c = '%'
  · subst hc
    have hbytes : Percent.Escapes (String.utf8EncodeChar '%') ['%', '2', '5'] :=
      .cons (.inl rfl) (.inl rfl) .nil
    exact ⟨[['%', '2', '5']], .cons (.escaped hbytes) .nil, rfl⟩
  · have hplain : ∀ d ∈ escape c, d ≠ '%' := by
      unfold escape
      split
      · simp
      · split
        · simp
        · simpa using hc
    refine ⟨(escape c).map fun d => [d], ?_, ?_⟩
    · rw [List.forall₂_map_right_iff, List.forall₂_same]
      exact fun d hd => .plain (hplain d hd)
    · rw [barePiece, if_neg hc, ← List.flatMap_def, List.flatMap_singleton']

theorem escapeBare_barePiece (c : Char) : EscapeBare c (barePiece c) := by
  rintro (rfl | rfl) <;> rfl

/-- A reference to a schema under a spelling of its name leads to the name as it is read, character
by character. This is the name itself exactly if no character of the escape of a tilde or a slash is
escaped in its turn. So every name has a reference that leads to it. -/
theorem componentName?_of_spelling (hname : name ≠ "")
    (hchars : spelling.map Prod.fst = name.toList)
    (hspelled : ∀ entry ∈ spelling, SpelledAs entry.1 entry.2) :
    componentName? ("#/components/schemas/" ++ String.ofList (spelling.flatMap Prod.snd)) .schemas =
        some (String.ofList (spelling.flatMap readAs)) ∧
      (componentName? ("#/components/schemas/" ++ String.ofList (spelling.flatMap Prod.snd))
          .schemas = some name ↔ ∀ entry ∈ spelling, EscapeBare entry.1 entry.2) ∧
      ∃ reference, componentName? reference .schemas = some name := by
  have hread : ∀ {spelling : List (Char × List Char)}, spelling.map Prod.fst = name.toList →
      (∀ entry ∈ spelling, SpelledAs entry.1 entry.2) →
      componentName? ("#/components/schemas/" ++ String.ofList (spelling.flatMap Prod.snd))
        .schemas = some (String.ofList (spelling.flatMap readAs)) := by
    intro spelling hchars hspelled
    have hslash : '/' ∉ spelling.flatMap Prod.snd := by
      rw [List.mem_flatMap]
      rintro ⟨entry, he, hmem⟩
      exact (hspelled entry he).slash_not_mem hmem
    have hdecode := decodeSegment_of_spelling hspelled
    have hne : decodeSegment (spelling.flatMap Prod.snd) ≠ [] := by
      have hle := length_le_length_flatMap_readAs spelling
      rw [hdecode]
      intro hnil
      rw [hnil, List.length_nil, Nat.le_zero, List.length_eq_zero_iff] at hle
      rw [hle] at hchars
      exact hname (String.toList_inj.mp hchars.symm)
    rw [componentName?_of_segment hslash hne, hdecode]
  refine ⟨hread hchars hspelled, ?_, ?_⟩
  · rw [hread hchars hspelled, Option.some_inj, ← String.toList_inj, String.toList_ofList, ← hchars]
    exact flatMap_readAs_eq_iff
  · have hbare : (name.toList.map fun c => (c, barePiece c)).map Prod.fst = name.toList := by
      rw [List.map_map]
      exact List.map_id _
    refine ⟨_, (hread hbare ?_).trans ?_⟩
    · simpa using fun c _ => spelledAs_barePiece c
    · rw [flatMap_readAs_eq_iff.mpr (by simpa using fun c _ => escapeBare_barePiece c), hbare,
        String.ofList_toList]

/-- A name with an escape of each kind, and with a character of two bytes. -/
def mixedSpelling : List (Char × List Char) :=
  [('a', ['a']), ('/', ['~', '1']), ('é', ['%', 'C', '3', '%', 'a', '9']), ('%', ['%', '2', '5']),
    ('~', ['~', '0'])]

theorem componentName?_of_spelling_mixed :
    (∀ entry ∈ mixedSpelling, SpelledAs entry.1 entry.2) ∧
      componentName? "#/components/schemas/a~1%C3%a9%25~0" .schemas = some "a/é%~" := by
  have hbytes : Percent.Escapes (String.utf8EncodeChar 'é') ['%', 'C', '3', '%', 'a', '9'] :=
    .cons (.inr rfl) (.inl rfl) (.cons (.inl rfl) (.inl rfl) .nil)
  have hspelled : ∀ entry ∈ mixedSpelling, SpelledAs entry.1 entry.2 := by
    unfold mixedSpelling
    simp only [List.forall_mem_cons]
    refine ⟨spelledAs_barePiece 'a', spelledAs_barePiece '/', ?_, spelledAs_barePiece '%',
      spelledAs_barePiece '~', fun _ hmem => absurd hmem List.not_mem_nil⟩
    exact ⟨[['%', 'C', '3', '%', 'a', '9']], .cons (.escaped hbytes) .nil, rfl⟩
  have hname : "a/é%~" ≠ "" := by decide
  refine ⟨hspelled, ?_⟩
  exact (componentName?_of_spelling hname (by decide) hspelled).2.1.mpr (by decide)

/-- The tilde of an escape is escaped in its turn, and read behind the escape. -/
theorem escaped_tilde_misread :
    SpelledAs '~' ['%', '7', 'E', '0'] ∧
      componentName? "#/components/schemas/%7E0" .schemas = some "~0" := by
  have hbytes : Percent.Escapes (String.utf8EncodeChar '~') ['%', '7', 'E'] :=
    .cons (.inl rfl) (.inr rfl) .nil
  refine ⟨⟨[['%', '7', 'E'], ['0']], ?_, rfl⟩, ?_⟩
  · exact .cons (.escaped hbytes) (.cons (.plain (by decide)) .nil)
  · decide +kernel

end Reference

end OpenApiGen
