import OpenApiGen.Reference
import OpenApiGen.Proofs.Utf8Bytes

/-!
# Segments of references, decoded piece by piece

The three layers of a segment, escapes of pointers, escapes of bytes and bytes of characters, are
undone one after the other over the whole of it. Each of them may be undone on both sides of a
number sign apart, which is why the name of a component is longer than the name that is displayed
for it.
-/

namespace OpenApiGen

namespace Percent

variable {c d mark : Char} {rest : List Char}

/-! ## Escapes of bytes -/

theorem decode_other (hc : c ≠ '%') : decode (c :: rest) = Utf8.encodeChar c ++ decode rest := by
  rw [decode.eq_def]
  split
  · rename_i heq
    cases heq
    exact absurd rfl hc
  · rename_i heq
    cases heq
    rfl
  · rename_i heq
    cases heq

theorem decode_escape {b : Nat} (h : byte? c d = some b) :
    decode ('%' :: c :: d :: rest) = b :: decode rest := by
  rw [decode.eq_def]
  simp only [h]

theorem decode_no_escape (h : byte? c d = none) :
    decode ('%' :: c :: d :: rest) = Utf8.encodeChar '%' ++ decode (c :: d :: rest) := by
  rw [decode.eq_def]
  simp only [h]

theorem decode_before_mark (hmark : hex? mark = none) (rest : List Char) :
    decode ('%' :: mark :: rest) = Utf8.encodeChar '%' ++ decode (mark :: rest) := by
  cases rest with
  | nil =>
    rw [decode.eq_def]
    rfl
  | cons d rest =>
    have hnone : byte? mark d = none := by
      rw [byte?, hmark]
      rfl
    exact decode_no_escape hnone

/-- A character that is neither a percent sign nor a digit takes part in no escape. -/
theorem decode_append_mark (hmark : hex? mark = none) (hne : mark ≠ '%')
    (front rest : List Char) :
    decode (front ++ mark :: rest) = decode front ++ Utf8.encodeChar mark ++ decode rest := by
  fun_induction decode front with
  | case1 c d more b hb ih =>
    rw [List.cons_append, List.cons_append, List.cons_append, decode_escape hb, ih]
    rfl
  | case2 c d more hb ih =>
    rw [List.cons_append, List.cons_append, List.cons_append, decode_no_escape hb,
      ← List.cons_append, ← List.cons_append, ih, List.append_assoc, List.append_assoc,
      List.append_assoc]
  | case3 c more hshort ih =>
    by_cases hc : c = '%'
    · -- at most one character stands between the percent sign and the mark
      subst hc
      match more with
      | [] =>
        rw [List.cons_append, List.nil_append, decode_before_mark hmark, decode_other hne]
        simp [decode]
      | [d] =>
        have hnone : byte? d mark = none := by
          rw [byte?, hmark]
          cases hex? d <;> rfl
        rw [List.cons_append, List.cons_append, List.nil_append, decode_no_escape hnone,
          ← List.nil_append (mark :: rest), ← List.cons_append, ih]
        simp
      | d :: e :: more => exact absurd rfl (hshort d e more rfl)
    · rw [List.cons_append, decode_other hc, ih, List.append_assoc, List.append_assoc,
        List.append_assoc]
  | case4 => rw [List.nil_append, decode_other hne, List.nil_append]

end Percent

namespace Text

variable {a b c mark : Char} {new cs front : List Char}

/-! ## Pairs of characters -/

theorem replacePair_pair (rest : List Char) :
    replacePair a b new (a :: b :: rest) = new ++ replacePair a b new rest := by
  rw [replacePair, if_pos ⟨rfl, rfl⟩]

theorem replacePair_cons (h : ¬(c = a ∧ cs.head? = some b)) :
    replacePair a b new (c :: cs) = c :: replacePair a b new cs := by
  cases cs with
  | nil => rfl
  | cons d cs =>
    rw [List.head?_cons, Option.some_inj] at h
    rw [replacePair, if_neg h]

/-- No pair begins in front of a cut and ends behind it if the text in front does not end in its
first character. -/
theorem replacePair_append (h : front.getLast? ≠ some a) (rest : List Char) :
    replacePair a b new (front ++ rest) =
      replacePair a b new front ++ replacePair a b new rest := by
  fun_induction replacePair a b new front with
  | case1 c d front hpair ih =>
    obtain ⟨rfl, rfl⟩ := hpair
    rw [List.cons_append, List.cons_append, replacePair_pair, List.append_assoc]
    cases front with
    | nil => rfl
    | cons e front => rw [ih (by simpa [List.getLast?_cons_cons] using h)]
  | case2 c d front hpair ih =>
    rw [List.cons_append, replacePair_cons (by simpa using hpair),
      ih (by rwa [List.getLast?_cons_cons] at h), List.cons_append]
  | case3 front hshort =>
    match front with
    | [] => rfl
    | [c] =>
      have hc : c ≠ a := fun heq => h (by rw [heq]; rfl)
      rw [List.singleton_append, replacePair_cons fun hpair => hc hpair.1]
      rfl
    | c :: d :: front => exact absurd rfl (hshort c d front)

theorem replacePair_concat (hb : mark ≠ b) (front : List Char) :
    replacePair a b new (front ++ [mark]) = replacePair a b new front ++ [mark] := by
  fun_induction replacePair a b new front with
  | case1 c d front hpair ih =>
    obtain ⟨rfl, rfl⟩ := hpair
    rw [List.cons_append, List.cons_append, replacePair_pair, ih, List.append_assoc]
  | case2 c d front hpair ih =>
    rw [List.cons_append, replacePair_cons (by simpa using hpair), ih, List.cons_append]
  | case3 front hshort =>
    match front with
    | [] => rfl
    | [c] =>
      rw [List.singleton_append, replacePair_cons (by simp [hb])]
      rfl
    | c :: d :: front => exact absurd rfl (hshort c d front)

theorem replacePair_append_mark (ha : mark ≠ a) (hb : mark ≠ b) (front rest : List Char) :
    replacePair a b new (front ++ mark :: rest) =
      replacePair a b new front ++ mark :: replacePair a b new rest := by
  have hlast : (front ++ [mark]).getLast? ≠ some a := by
    rw [List.getLast?_concat]
    simpa using ha
  rw [List.append_cons, replacePair_append hlast, replacePair_concat hb, ← List.append_cons]

/-! ## The last piece of a text -/

theorem lastPiece_of_not_mem (h : c ∉ cs) : lastPiece c cs = cs := by
  rw [lastPiece, List.splitOn_eq_singleton h]
  rfl

theorem lastPiece_append_cons (front : List Char) (h : c ∉ cs) :
    lastPiece c (front ++ c :: cs) = cs := by
  rw [lastPiece, List.splitOn_append_cons_self, List.splitOn_eq_singleton h, List.getLastD_concat]

theorem exists_eq_append_lastPiece (h : c ∈ cs) : ∃ front, cs = front ++ c :: lastPiece c cs := by
  obtain ⟨back, front, hreverse, hback⟩ := List.eq_append_cons_of_mem (List.mem_reverse.mpr h)
  have hcs : cs = front.reverse ++ c :: back.reverse := by
    rw [← List.reverse_reverse cs, hreverse]
    simp
  refine ⟨front.reverse, ?_⟩
  rw [hcs, lastPiece_append_cons _ (by simpa using hback)]

end Text

namespace Reference

/-! ## Names of components, and names that are displayed -/

theorem decodeSegment_append_numberSign (front rest : List Char) :
    decodeSegment (front ++ '#' :: rest) = decodeSegment front ++ '#' :: decodeSegment rest := by
  unfold decodeSegment
  dsimp only
  rw [Text.replacePair_append_mark (by decide) (by decide),
    Text.replacePair_append_mark (by decide) (by decide),
    Percent.decode_append_mark (by decide) (by decide), List.append_assoc]
  exact Utf8.decode_append_ascii (by decide) _ _

variable {reference name : String} {part : Section}

/-- Where a reference leads to a component, the name of this component is the last segment. -/
theorem toList_of_componentName? (h : componentName? reference part = some name) :
    name.toList = decodeSegment (Text.lastPiece '/' reference.toList) := by
  unfold componentName? at h
  split at h
  · cases h
  · rename_i pointer hpointer
    split at h
    · rename_i components sectionName last hsplit
      split at h
      · have hlast : Text.lastPiece '/' reference.toList = last := by
          have hpieces : reference.toList.splitOn '/' = ['#'] :: pointer.splitOn '/' := by
            have hfront : '/' ∉ ['#'] := by decide
            rw [Text.after?_eq_some_iff.mp hpointer]
            exact List.splitOn_append_cons_self_of_not_mem hfront pointer
          rw [Text.lastPiece, hpieces, hsplit]
          rfl
        dsimp only at h
        split at h
        · cases h
        · rw [hlast, ← Option.some.inj h, String.toList_ofList]
      · cases h
    · cases h

/-- The name that is displayed begins behind the last number sign of the last segment, where the
name of the component has it. -/
theorem displayName_eq_iff (h : componentName? reference part = some name) :
    displayName reference = name ↔ '#' ∉ Text.lastPiece '/' reference.toList := by
  have hname := toList_of_componentName? h
  rw [displayName, ← String.toList_inj, String.toList_ofList, hname]
  generalize Text.lastPiece '/' reference.toList = last
  constructor
  · intro heq hmark
    obtain ⟨front, hlast⟩ := Text.exists_eq_append_lastPiece hmark
    have hlength := congrArg (fun cs => (decodeSegment cs).length) hlast
    simp only [decodeSegment_append_numberSign, List.length_append, List.length_cons, ← heq]
      at hlength
    omega
  · intro hmark
    rw [Text.lastPiece_of_not_mem hmark]

end Reference

end OpenApiGen
