import OpenApiGen.EntityFile
import OpenApiGen.Proofs.PathMarks
import OpenApiGen.Proofs.TextMarks

/-!
# Descriptions in comments

A block comment ends at the first terminator, a star with a slash behind it. The comment that is
made of a description has the lines of the description on lines of its own, with every terminator in
them broken up by a backslash, so that it ends where it is closed and what is behind it is the code
that stands there without a description.
-/

namespace OpenApiGen

namespace BlockComment

/-- What ends a comment. -/
def terminator : List Char := ['*', '/']

/-- What follows the first terminator. -/
def close? : List Char → Option (List Char)
  | [] => none
  | c :: rest => if c = '*' ∧ rest.head? = some '/' then some rest.tail else close? rest

/-- What follows the comment that a source starts with. -/
def skip? : List Char → Option (List Char)
  | '/' :: '*' :: rest => close? rest
  | _ => none

theorem close?_of_ends {front : List Char} (h : ¬terminator <:+: front ++ ['*'])
    (rest : List Char) : close? (front ++ '*' :: '/' :: rest) = some rest := by
  induction front with
  | nil => simp [close?]
  | cons c front ih =>
    rw [List.cons_append, List.infix_cons_iff, not_or] at h
    obtain ⟨hstart, hlater⟩ := h
    have hpair : ¬(c = '*' ∧ (front ++ '*' :: '/' :: rest).head? = some '/') := by
      rintro ⟨rfl, hslash⟩
      cases front with
      | nil => simp at hslash
      | cons d front =>
        rw [List.cons_append, List.head?_cons, Option.some_inj] at hslash
        subst hslash
        exact hstart ⟨front ++ ['*'], rfl⟩
    rw [List.cons_append, close?, if_neg hpair, ih hlater]

theorem skip?_of_ends {inner : List Char}
    (h : ¬terminator <:+: '/' :: '*' :: inner ++ ['*']) (rest : List Char) :
    skip? ('/' :: '*' :: inner ++ '*' :: '/' :: rest) = some rest := by
  refine close?_of_ends (fun hinner => h ?_) rest
  exact hinner.trans (List.suffix_append ['/', '*'] _).isInfix

end BlockComment

namespace Text

/-! ## Pairs that are replaced -/

/-- The second text is the first one with another text for every pair of the two characters, and
only there. -/
def Replaces (a b : Char) (new cs written : List Char) : Prop :=
  ∃ pieces, (∀ piece ∈ pieces, ¬[a, b] <:+: piece) ∧ cs = [a, b].intercalate pieces ∧
    written = new.intercalate pieces

theorem intercalate_cons_head (sep : List Char) (c : Char) (piece : List Char)
    (pieces : List (List Char)) :
    sep.intercalate ((c :: piece) :: pieces) = c :: sep.intercalate (piece :: pieces) := by
  cases pieces with
  | nil => simp [List.intercalate_singleton]
  | cons next rest => simp [List.intercalate_cons_cons]

variable {a b : Char} {new : List Char}

theorem replaces_replacePair (cs : List Char) : Replaces a b new cs (replacePair a b new cs) := by
  -- a piece in front, so that characters and pairs can be put before it
  suffices h : ∃ piece pieces, (∀ p ∈ piece :: pieces, ¬[a, b] <:+: p) ∧
      cs = [a, b].intercalate (piece :: pieces) ∧
        replacePair a b new cs = new.intercalate (piece :: pieces) by
    obtain ⟨piece, pieces, h⟩ := h
    exact ⟨piece :: pieces, h⟩
  fun_induction replacePair a b new cs with
  | case1 c d rest hpair ih =>
    obtain ⟨rfl, rfl⟩ := hpair
    obtain ⟨piece, pieces, hpieces, hcs, hwritten⟩ := ih
    refine ⟨[], piece :: pieces, ?_, ?_, ?_⟩
    · exact List.forall_mem_cons.mpr ⟨by simp, hpieces⟩
    · rw [List.intercalate_cons_cons, ← hcs]
      rfl
    · rw [List.intercalate_cons_cons, ← hwritten]
      rfl
  | case2 c d rest hpair ih =>
    obtain ⟨piece, pieces, hpieces, hcs, hwritten⟩ := ih
    obtain ⟨hpiece, hrest⟩ := List.forall_mem_cons.mp hpieces
    refine ⟨c :: piece, pieces, List.forall_mem_cons.mpr ⟨?_, hrest⟩, ?_, ?_⟩
    · rw [List.infix_cons_iff, not_or]
      refine ⟨fun hstart => hpair ?_, hpiece⟩
      obtain ⟨rfl, hb⟩ := List.cons_prefix_cons.mp hstart
      refine ⟨rfl, ?_⟩
      cases piece with
      | nil => simp at hb
      | cons e piece =>
        rw [intercalate_cons_head, List.cons.injEq] at hcs
        exact hcs.1.trans (List.cons_prefix_cons.mp hb).1.symm
    · rw [intercalate_cons_head, ← hcs]
    · rw [intercalate_cons_head, ← hwritten]
  | case3 cs hshort =>
    refine ⟨cs, [], ?_, by simp [List.intercalate_singleton], by simp [List.intercalate_singleton]⟩
    rw [List.forall_mem_singleton]
    cases cs with
    | nil => simp
    | cons c rest =>
      cases rest with
      | nil => exact fun h => absurd h.length_le (by simp)
      | cons d rest => exact absurd rfl (hshort c d rest)

theorem head?_replacePair (cs : List Char) :
    (replacePair a b (a :: new) cs).head? = cs.head? := by
  fun_induction replacePair a b (a :: new) cs with
  | case1 c d rest hpair ih => simp [hpair.1]
  | case2 c d rest hpair ih => rfl
  | case3 cs hshort => rfl

/-! ## Lines -/

theorem not_mem_of_mem_splitOn {c : Char} {cs piece : List Char} (h : piece ∈ cs.splitOn c) :
    c ∉ piece := by
  induction cs generalizing piece with
  | nil =>
    rw [List.splitOn_nil, List.mem_singleton] at h
    simp [h]
  | cons d cs ih =>
    rw [List.splitOn_cons_eq_if_modifyHead] at h
    split at h
    · rcases List.mem_cons.mp h with rfl | h
      · exact List.not_mem_nil
      · exact ih h
    · rename_i hd
      obtain ⟨first, rest, hsplit⟩ := List.exists_cons_of_ne_nil (List.splitOn_ne_nil c cs)
      rw [hsplit, List.modifyHead_cons] at h
      rcases List.mem_cons.mp h with rfl | h
      · rw [List.mem_cons, not_or]
        exact ⟨fun hc => hd (by simp [hc]), ih (hsplit ▸ List.mem_cons_self ..)⟩
      · exact ih (hsplit ▸ List.mem_cons_of_mem _ h)

theorem dropReturn_subset (line : List Char) : dropReturn line ⊆ line := by
  unfold dropReturn
  cases hfront : before? ['\r'] line with
  | none => exact List.Subset.refl _
  | some front =>
    rw [before?_eq_some_iff.mp hfront]
    exact List.subset_append_left ..

theorem exists_subset_of_mem_terminated {pieces : List (List Char)} {line : List Char}
    (h : line ∈ terminated pieces) : ∃ piece ∈ pieces, line ⊆ piece := by
  fun_induction terminated pieces with
  | case1 => cases h
  | case2 => cases h
  | case3 last _ => exact ⟨line, h, List.Subset.refl _⟩
  | case4 piece rest _ ih =>
    rcases List.mem_cons.mp h with rfl | h
    · exact ⟨piece, List.mem_cons_self .., dropReturn_subset piece⟩
    · obtain ⟨other, hother, hline⟩ := ih h
      exact ⟨other, List.mem_cons_of_mem _ hother, hline⟩

theorem newline_not_mem_of_mem_lines {cs line : List Char} (h : line ∈ lines cs) : '\n' ∉ line := by
  obtain ⟨piece, hpiece, hline⟩ := exists_subset_of_mem_terminated h
  exact fun hmem => not_mem_of_mem_splitOn hpiece (hline hmem)

theorem mem_of_mem_replacePair {c : Char} {cs : List Char} (h : c ∈ replacePair a b new cs) :
    c ∈ cs ∨ c ∈ new := by
  fun_induction replacePair a b new cs with
  | case1 d e rest _ ih =>
    rcases List.mem_append.mp h with h | h
    · exact .inr h
    · exact (ih h).imp_left fun h => by simp [h]
  | case2 d e rest _ ih =>
    rcases List.mem_cons.mp h with rfl | h
    · exact .inl (List.mem_cons_self ..)
    · exact (ih h).imp_left fun h => List.mem_cons_of_mem _ h
  | case3 => exact .inl h

section

variable {c : Char} {part : List Char}

theorem infix_intercalate_iff (hc : c ∉ part) (hne : part ≠ []) (texts : List (List Char)) :
    part <:+: [c].intercalate texts ↔ ∃ text ∈ texts, part <:+: text := by
  induction texts with
  | nil => simp [List.intercalate, hne]
  | cons text texts ih =>
    cases texts with
    | nil => simp [List.intercalate_singleton]
    | cons next rest =>
      rw [List.intercalate_cons_cons, List.append_assoc, List.singleton_append,
        infix_append_cons_iff hc, ih]
      exact (List.exists_mem_cons_iff ..).symm

theorem intercalate_concat_append (sep last tail : List Char) (texts : List (List Char)) :
    sep.intercalate (texts ++ [last ++ tail]) = sep.intercalate (texts ++ [last]) ++ tail := by
  induction texts with
  | nil => simp [List.intercalate_singleton]
  | cons text texts ih =>
    rw [List.cons_append, List.cons_append, List.intercalate_cons_of_ne_nil (by simp),
      List.intercalate_cons_of_ne_nil (by simp), ih, List.append_assoc _ _ tail]

theorem flatMap_concat_eq_intercalate (sep text : List Char) (texts : List (List Char)) :
    (text :: texts).flatMap (· ++ sep) = sep.intercalate (text :: texts) ++ sep := by
  induction texts generalizing text with
  | nil => simp [List.intercalate_singleton]
  | cons next rest ih =>
    rw [List.flatMap_cons, ih, List.intercalate_cons_cons, List.append_assoc _ _ sep]

end

end Text

/-! ## The comment of a description -/

open BlockComment (terminator skip?)

/-- A comment that shows lines: it opens for documentation, the only terminator in it is its end,
and the lines stand behind its first one, each on a line of its own with the terminators in it
broken up. -/
structure DocComment (lines : List (List Char)) (comment : List Char) : Prop where
  opens : "/**".toList <+: comment
  closes : terminator <:+ comment
  once : ¬terminator <:+: comment.dropLast
  skips : ∀ code, skip? (comment ++ code) = some code
  shows : ∃ written, List.Forall₂ (Text.Replaces '*' '/' ['*', '\\', '/']) lines written ∧
    comment.splitOn '\n'
      = "/**".toList :: written.map (fun line => "   * ".toList ++ line) ++ ["   */".toList]

namespace EntityProperty

open BlockComment (skip?_of_ends)

theorem terminator_not_infix_commentLine (line : List Char) :
    ¬terminator <:+: commentLine line := by
  unfold commentLine
  fun_induction Text.replacePair '*' '/' ['*', '\\', '/'] line with
  | case1 c d rest hpair ih =>
    simpa [terminator, List.infix_cons_iff, List.cons_prefix_cons] using ih
  | case2 c d rest hpair ih =>
    rw [List.infix_cons_iff, not_or]
    refine ⟨fun hstart => hpair ?_, ih⟩
    obtain ⟨rfl, tail, htail⟩ := List.cons_prefix_cons.mp hstart
    -- what is written for the rest begins as the rest does
    have hhead := congrArg List.head? htail
    rw [Text.head?_replacePair] at hhead
    exact ⟨rfl, (Option.some.inj hhead).symm⟩
  | case3 cs hshort =>
    cases cs with
    | nil => simp [terminator]
    | cons c rest =>
      cases rest with
      | nil => exact fun h => absurd h.length_le (by simp [terminator])
      | cons d rest => exact absurd rfl (hshort c d rest)

/-- The lines of a description as they stand in its comment. -/
def commentLines (description : String) : List (List Char) :=
  (Text.lines description.toList).map fun line => "   * ".toList ++ commentLine line

/-- The comment from its first character to its last one. -/
def docComment (description : String) : List Char :=
  ['\n'].intercalate ("/**".toList :: commentLines description ++ ["   */".toList])

theorem toList_commentText (description : String) :
    (commentText description).toList = "  ".toList ++ docComment description ++ ['\n'] := by
  have hlines : docComment description ++ ['\n'] =
      ("/**".toList :: commentLines description ++ ["   */".toList]).flatMap (· ++ ['\n']) :=
    (Text.flatMap_concat_eq_intercalate ['\n'] "/**".toList _).symm
  rw [List.append_assoc, hlines]
  simp [commentText, commentLines, String.toList_join, List.flatMap_map]

theorem terminator_not_infix_commentLines {description : String} {line : List Char}
    (h : line ∈ commentLines description) : ¬terminator <:+: line := by
  obtain ⟨text, -, rfl⟩ := List.mem_map.mp h
  have hmargin : "   * ".toList ++ commentLine text = "   *".toList ++ ' ' :: commentLine text :=
    rfl
  rw [hmargin, Text.infix_append_cons_iff (by decide), not_or]
  exact ⟨by decide, terminator_not_infix_commentLine text⟩

theorem newline_not_mem_commentLines {description : String} {line : List Char}
    (h : line ∈ commentLines description) : '\n' ∉ line := by
  obtain ⟨text, htext, rfl⟩ := List.mem_map.mp h
  rw [List.mem_append, not_or]
  refine ⟨by decide, fun hmem => ?_⟩
  rcases Text.mem_of_mem_replacePair hmem with hmem | hmem
  · exact Text.newline_not_mem_of_mem_lines htext hmem
  · exact absurd hmem (by decide)

/-- What stands in the comment does not end it, not even with the star of the terminator. -/
theorem exists_inner (description : String) :
    ∃ inner, docComment description = '/' :: '*' :: inner ++ terminator ∧
      "/**".toList <+: '/' :: '*' :: inner ∧ ¬terminator <:+: '/' :: '*' :: inner ++ ['*'] := by
  have hopen (last : List Char) :
      ['\n'].intercalate ("/**".toList :: commentLines description ++ ["   ".toList ++ last]) =
        '/' :: '*' :: ('*' :: '\n' ::
          ['\n'].intercalate (commentLines description ++ ["   ".toList])) ++ last := by
    rw [List.cons_append, List.intercalate_cons_of_ne_nil (by simp), Text.intercalate_concat_append]
    rfl
  refine ⟨_, hopen terminator, ⟨_, rfl⟩, ?_⟩
  rw [← hopen, Text.infix_intercalate_iff (by decide) (by decide)]
  rintro ⟨line, hline, hpart⟩
  rcases List.mem_cons.mp hline with rfl | hline
  · exact absurd hpart (by decide)
  · rcases List.mem_append.mp hline with hline | hline
    · exact terminator_not_infix_commentLines hline hpart
    · rw [List.mem_singleton.mp hline] at hpart
      exact absurd hpart (by decide)

theorem splitOn_docComment (description : String) :
    (docComment description).splitOn '\n' =
      "/**".toList :: commentLines description ++ ["   */".toList] := by
  refine List.splitOn_intercalate '\n' (fun line hline => ?_) (List.cons_ne_nil _ _)
  rcases List.mem_cons.mp hline with rfl | hline
  · decide
  · rcases List.mem_append.mp hline with hline | hline
    · exact newline_not_mem_commentLines hline
    · rw [List.mem_singleton.mp hline]
      decide

/-- The comment of a description shows its lines, whatever they are. -/
theorem docComment_shows (description : String) :
    DocComment (Text.lines description.toList) (docComment description) := by
  obtain ⟨inner, hcomment, hopens, honce⟩ := exists_inner description
  have hlast : docComment description = ('/' :: '*' :: inner ++ ['*']) ++ ['/'] := by
    simp [hcomment, terminator]
  refine ⟨?_, ?_, ?_, ?_, (Text.lines description.toList).map commentLine, ?_, ?_⟩
  · exact hcomment ▸ hopens.trans (List.prefix_append _ _)
  · exact hcomment ▸ List.suffix_append _ _
  · rw [hlast, List.dropLast_concat]
    exact honce
  · intro code
    rw [hcomment, List.append_assoc]
    exact skip?_of_ends honce code
  · rw [List.forall₂_map_right_iff, List.forall₂_same]
    exact fun line _ => Text.replaces_replacePair line
  · rw [splitOn_docComment, commentLines, List.map_map]
    rfl

/-- A description puts a comment in front of its member, and changes nothing else of it. -/
theorem text_of_description (typeOrm validated : Bool) (p : EntityProperty) (description : String) :
    (EntityMember.ofProperty typeOrm validated { p with description := some description }).text =
      commentText description
        ++ (EntityMember.ofProperty typeOrm validated { p with description := none }).text := by
  have htype : declaredType { p with description := some description } =
      declaredType { p with description := none } := by
    rw [declaredType, declaredType]
  have hmember :
      EntityMember.ofProperty typeOrm validated { p with description := some description } =
        { EntityMember.ofProperty typeOrm validated { p with description := none } with
          description := some description } := by
    unfold EntityMember.ofProperty
    rw [htype]
    rfl
  rw [hmember]
  simp [EntityMember.text, EntityMember.ofProperty, String.append_assoc]

/-- For every property and description, the text of the member begins with a comment that shows the
lines of the description and ends at its only terminator; the rest is the text of the member without
a description. -/
theorem description_stays_in_comment (typeOrm validated : Bool) (p : EntityProperty)
    (description : String) :
    ∃ comment, DocComment (Text.lines description.toList) comment ∧
      (EntityMember.ofProperty typeOrm validated
        { p with description := some description }).text.toList =
          "  ".toList ++ comment ++ '\n' :: (EntityMember.ofProperty typeOrm validated
            { p with description := none }).text.toList := by
  refine ⟨docComment description, docComment_shows description, ?_⟩
  rw [text_of_description, String.toList_append, toList_commentText, List.append_assoc _ ['\n']]
  rfl

end EntityProperty

end OpenApiGen
