import OpenApiGen.Naming
import OpenApiGen.Proofs.PathMarks

/-!
# The letters of generated names

A name made from the pieces of a route has the letters of the route and no others, up to case. Camel
case knows all scripts, and there a letter may become others; but where a name comes out in ASCII,
only some letters can be new in it. For all others no name has more of them than what it was made
from.
-/

namespace OpenApiGen

theorem toNat_toLower (c : Char) :
    c.toLower.toNat = if 65 ≤ c.toNat ∧ c.toNat ≤ 90 then c.toNat + 32 else c.toNat := by
  unfold Char.toLower Char.toNat
  simp only [ge_iff_le, UInt32.le_iff_toNat_le]
  split
  · rename_i h
    have hupper : 65 ≤ c.val.toNat ∧ c.val.toNat ≤ 90 := h
    have hoffset : ('a'.val - 'A'.val).toNat = 32 := rfl
    rw [if_pos hupper, UInt32.toNat_add, hoffset]
    omega
  · rename_i h
    have hother : ¬(65 ≤ c.val.toNat ∧ c.val.toNat ≤ 90) := h
    rw [if_neg hother]

theorem toNat_toUpper (c : Char) :
    c.toUpper.toNat = if 97 ≤ c.toNat ∧ c.toNat ≤ 122 then c.toNat - 32 else c.toNat := by
  unfold Char.toUpper Char.toNat
  simp only [UInt32.le_iff_toNat_le]
  split
  · rename_i h
    have hlower : 97 ≤ c.val.toNat ∧ c.val.toNat ≤ 122 := h
    have hoffset : ('A'.val - 'a'.val).toNat = 2 ^ 32 - 32 := rfl
    rw [if_pos hlower, UInt32.toNat_add, hoffset]
    omega
  · rename_i h
    have hother : ¬(97 ≤ c.val.toNat ∧ c.val.toNat ≤ 122) := h
    rw [if_neg hother]

theorem toLower_toLower (c : Char) : c.toLower.toLower = c.toLower := by
  rw [← Char.toNat_inj, toNat_toLower c.toLower, toNat_toLower c]
  split_ifs <;> omega

theorem toLower_toUpper (c : Char) : c.toUpper.toLower = c.toLower := by
  rw [← Char.toNat_inj, toNat_toLower c.toUpper, toNat_toLower c, toNat_toUpper]
  split_ifs <;> omega

theorem toLower_eq_iff {small c : Char} (h : 97 ≤ small.toNat ∧ small.toNat ≤ 122) :
    c.toLower = small ↔ c = small ∨ c = small.toUpper := by
  simp only [← Char.toNat_inj, toNat_toLower, toNat_toUpper, if_pos h]
  split <;> omega

theorem isLower_iff {c : Char} : c.isLower ↔ 97 ≤ c.toNat ∧ c.toNat ≤ 122 := by
  unfold Char.isLower Char.toNat
  simp only [Bool.and_eq_true, decide_eq_true_eq, ge_iff_le, UInt32.le_iff_toNat_le]
  exact Iff.rfl

theorem isAlphanum_iff {c : Char} : c.isAlphanum ↔ (65 ≤ c.toNat ∧ c.toNat ≤ 90) ∨
    (97 ≤ c.toNat ∧ c.toNat ≤ 122) ∨ 48 ≤ c.toNat ∧ c.toNat ≤ 57 := by
  unfold Char.isAlphanum Char.isAlpha Char.isUpper Char.isLower Char.isDigit Char.toNat
  simp only [Bool.or_eq_true, Bool.and_eq_true, decide_eq_true_eq, ge_iff_le,
    UInt32.le_iff_toNat_le, or_assoc]
  exact Iff.rfl

theorem isLower_toUpper (c : Char) : c.toUpper.isLower = false := by
  rw [← Bool.not_eq_true, isLower_iff, toNat_toUpper]
  split_ifs <;> omega

theorem isAlphanum_toUpper {c : Char} (h : c.isAlphanum) : c.toUpper.isAlphanum := by
  rw [isAlphanum_iff] at h ⊢
  rw [toNat_toUpper]
  split_ifs <;> omega

/-- The pieces of a list hold what is not split at. -/
theorem flatten_splitOnP {α : Type} (p : α → Bool) (xs : List α) :
    (xs.splitOnP p).flatten = xs.filter fun x => !p x := by
  induction xs with
  | nil => rfl
  | cons x xs ih =>
    rw [List.splitOnP_cons_eq_if_modifyHead]
    cases hx : p x with
    | true => simpa [hx] using ih
    | false =>
      obtain ⟨first, rest, hsplit⟩ := List.exists_cons_of_ne_nil (List.splitOnP_ne_nil p xs)
      rw [hsplit] at ih
      simpa [hx, hsplit] using ih

namespace Naming

theorem toNat_lt_of_isAlphanum {c : Char} (h : c.isAlphanum) : c.toNat < 128 := by
  rw [isAlphanum_iff] at h
  omega

theorem upperChar_of_isAlphanum {c : Char} (h : c.isAlphanum) :
    Unicode.upperChar c = [c.toUpper] :=
  if_pos (toNat_lt_of_isAlphanum h)

theorem map_toLower_capitalizeChars {cs : List Char} (h : ∀ c ∈ cs, c.isAlphanum) :
    (capitalizeChars cs).map Char.toLower = cs.map Char.toLower := by
  cases cs with
  | nil => rfl
  | cons c cs =>
    rw [capitalizeChars, upperChar_of_isAlphanum (h c (List.mem_cons_self ..)), List.singleton_append,
      List.map_cons, List.map_cons, toLower_toUpper]

theorem flatten_pieces (cs : List Char) :
    (cs.splitOnP fun c => !c.isAlphanum).flatten = cs.filter Char.isAlphanum := by
  simpa using flatten_splitOnP (fun c : Char => !c.isAlphanum) cs

theorem isAlphanum_of_mem_piece {cs piece : List Char}
    (hp : piece ∈ cs.splitOnP fun c => !c.isAlphanum) : ∀ c ∈ piece, c.isAlphanum := by
  intro c hc
  have hmem : c ∈ cs.filter Char.isAlphanum := flatten_pieces cs ▸ List.mem_flatten_of_mem hp hc
  exact (List.mem_filter.mp hmem).2

/-- Up to case, the name of a route is made up of its letters and digits. -/
theorem map_toLower_routeChars (cs : List Char) :
    (routeChars cs).map Char.toLower = (cs.filter Char.isAlphanum).map Char.toLower := by
  rw [← flatten_pieces, routeChars, List.map_flatMap, List.map_flatten, List.flatMap_def]
  congr 1
  exact List.map_congr_left fun piece hp => map_toLower_capitalizeChars (isAlphanum_of_mem_piece hp)

theorem isAlphanum_of_mem_routeChars {cs : List Char} : ∀ c ∈ routeChars cs, c.isAlphanum := by
  intro c hc
  obtain ⟨piece, hp, hc⟩ := List.mem_flatMap.mp hc
  have hpiece := isAlphanum_of_mem_piece hp
  cases piece with
  | nil => cases hc
  | cons d rest =>
    rw [capitalizeChars, upperChar_of_isAlphanum (hpiece d (List.mem_cons_self ..))] at hc
    rcases List.mem_append.mp hc with hc | hc
    · rw [List.mem_singleton.mp hc]
      exact isAlphanum_toUpper (hpiece d (List.mem_cons_self ..))
    · exact hpiece c (List.mem_cons_of_mem _ hc)

/-- The name of a route starts with a capital or a digit, if it is not empty. -/
theorem isLower_head?_routeChars {cs : List Char} {c : Char} (h : (routeChars cs).head? = some c) :
    c.isLower = false := by
  rw [routeChars, List.head?_flatMap] at h
  obtain ⟨piece, hp, hhead⟩ := List.exists_of_findSome?_eq_some h
  cases piece with
  | nil => cases hhead
  | cons d rest =>
    have hd := isAlphanum_of_mem_piece hp d (List.mem_cons_self ..)
    rw [capitalizeChars, upperChar_of_isAlphanum hd] at hhead
    cases hhead
    exact isLower_toUpper d

theorem routeChars_eq_nil_iff {cs : List Char} :
    routeChars cs = [] ↔ ∀ c ∈ cs, c.isAlphanum = false := by
  have hlower : routeChars cs = [] ↔ cs.filter Char.isAlphanum = [] := by
    rw [← List.map_eq_nil_iff (f := Char.toLower), map_toLower_routeChars, List.map_eq_nil_iff]
  rw [hlower, List.filter_eq_nil_iff]
  simp only [Bool.not_eq_true]

theorem length_routeChars_le (cs : List Char) : (routeChars cs).length ≤ cs.length := by
  have hlength := congrArg List.length (map_toLower_routeChars cs)
  rw [List.length_map, List.length_map] at hlength
  rw [hlength]
  exact List.length_filter_le _ _

theorem length_guardStart_le (cs : List Char) : (guardStart cs).length ≤ cs.length + 1 := by
  cases cs with
  | nil => rfl
  | cons c cs =>
    rw [guardStart]
    split <;> simp

/-- An identifier is longer than what it stands for by no more than the sign it begins with. -/
theorem length_typeIdentifier_le (name : String) :
    (typeIdentifier name).toList.length ≤ name.toList.length + 1 := by
  unfold typeIdentifier
  split
  · exact Nat.le_succ _
  · have hguard := length_guardStart_le (routeChars name.toList)
    have hroute := length_routeChars_le name.toList
    rw [String.toList_ofList]
    omega

theorem ascii_routeChars (cs : List Char) : ∀ c ∈ routeChars cs, c.toNat < 128 := fun c hc =>
  toNat_lt_of_isAlphanum (isAlphanum_of_mem_routeChars c hc)

end Naming

/-! ## Counting letters -/

/-- How often a small letter occurs in a text, capitals included. -/
def letterCount (letter : Char) (cs : List Char) : Nat := (cs.map Char.toLower).count letter

section

variable {letter : Char}

theorem letterCount_append (front back : List Char) :
    letterCount letter (front ++ back) = letterCount letter front + letterCount letter back := by
  rw [letterCount, List.map_append, List.count_append]
  rfl

theorem letterCount_cons (c : Char) (cs : List Char) :
    letterCount letter (c :: cs) = letterCount letter [c] + letterCount letter cs :=
  letterCount_append [c] cs

theorem letterCount_le_of_sublist {some all : List Char} (h : some.Sublist all) :
    letterCount letter some ≤ letterCount letter all :=
  (h.map Char.toLower).count_le letter

theorem letterCount_eq_zero {cs : List Char} (h : ∀ c ∈ cs, c.toLower ≠ letter) :
    letterCount letter cs = 0 := by
  rw [letterCount, List.count_eq_zero, List.mem_map]
  rintro ⟨c, hc, heq⟩
  exact h c hc heq

/-- No more of a letter in each part, no more of it in the whole. -/
theorem letterCount_flatMap_le {α : Type} {xs : List α} {f g : α → List Char}
    (h : ∀ x ∈ xs, letterCount letter (f x) ≤ letterCount letter (g x)) :
    letterCount letter (xs.flatMap f) ≤ letterCount letter (xs.flatMap g) := by
  induction xs with
  | nil => exact Nat.le_refl _
  | cons x xs ih =>
    rw [List.flatMap_cons, List.flatMap_cons, letterCount_append, letterCount_append]
    have hfirst := h x (List.mem_cons_self ..)
    have hrest := ih fun y hy => h y (List.mem_cons_of_mem _ hy)
    omega

end

/-- Letters of verbs. They are not among those that come up as the other case of something above
ASCII. -/
def plainLetters : List Char := ['a', 'd', 'g', 'p']

theorem letterCount_of_no_plain {letter : Char} (hl : letter ∈ plainLetters) {cs : List Char}
    (h : ∀ c ∈ cs, c.toLower ∉ plainLetters) : letterCount letter cs = 0 := by
  refine letterCount_eq_zero fun c hc heq => h c hc ?_
  rwa [heq]

namespace Unicode

/-- What characters above ASCII become where they become ASCII: small or capital forms, parts of
ligatures, and what stands for no character at all. -/
def foldedLetters : List Char := ['\x00', 'k', 'F', 'I', 'L', 'S', 'T']

theorem letterCount_folded {letter : Char} (hl : letter ∈ plainLetters) {cs : List Char}
    (h : ∀ c ∈ cs, c ∈ foldedLetters) : letterCount letter cs = 0 := by
  have hother : ∀ c ∈ foldedLetters, c.toLower ∉ plainLetters := by
    simp [plainLetters, foldedLetters]
  exact letterCount_of_no_plain hl fun c hc => hother c (h c hc)

theorem upperExpansions_folded : ∀ entry ∈ upperExpansions,
    (∀ n ∈ entry.2, (Char.ofNat n).toNat < 128) →
      ∀ n ∈ entry.2, Char.ofNat n ∈ foldedLetters := by
  decide +kernel

/-- The other case of a run is above ASCII, unless the run is of a single letter. -/
def Folds (entry : Run × Int) : Prop :=
  (128 : Int) ≤ entry.1.1 + entry.2 ∨
    entry.1.2.1 = entry.1.1 ∧ Char.ofNat (entry.1.1 + entry.2).toNat ∈ foldedLetters

instance (entry : Run × Int) : Decidable (Folds entry) := inferInstanceAs (Decidable (_ ∨ _))

theorem folds_lowerOffsets : ∀ entry ∈ lowerOffsets, Folds entry := by
  decide +kernel

theorem folds_upperOffsets : ∀ entry ∈ upperOffsets, Folds entry := by
  decide +kernel

theorem ofNat_eq_or (n : Nat) : (Char.ofNat n).toNat = n ∨ Char.ofNat n = '\x00' := by
  by_cases hv : n.isValidChar
  · rw [Char.ofNat, dif_pos hv]
    exact .inl rfl
  · rw [Char.ofNat, dif_neg hv]
    exact .inr rfl

theorem shift_folded {offsets : List (Run × Int)} (hf : ∀ entry ∈ offsets, Folds entry) {c : Char}
    (hc : 128 ≤ c.toNat) (h : (shift offsets c).toNat < 128) : shift offsets c ∈ foldedLetters := by
  unfold shift at h ⊢
  split at h
  · rename_i run offset hfind
    obtain ⟨first, last, step⟩ := run
    have hin := List.find?_some hfind
    simp only [inRuns, List.any_cons, List.any_nil, Bool.or_false, Bool.and_eq_true,
      decide_eq_true_eq] at hin
    obtain ⟨⟨hfirst, hlast⟩, -⟩ := hin
    rcases ofNat_eq_or ((c.toNat : Int) + offset).toNat with hvalue | hzero
    · rw [hvalue] at h
      rcases hf _ (List.mem_of_find?_eq_some hfind) with habove | ⟨hsingle, hfolded⟩
      · simp only at habove
        omega
      · simp only at hsingle hfolded
        have heq : c.toNat = first := by omega
        rw [heq]
        exact hfolded
    · rw [hzero]
      decide
  · omega

/-- Lower case in ASCII has no more of a plain letter. -/
theorem letterCount_lowerChar_le {letter : Char} (hl : letter ∈ plainLetters) {c : Char}
    (h : ∀ d ∈ lowerChar c, d.toNat < 128) :
    letterCount letter (lowerChar c) ≤ letterCount letter [c] := by
  unfold lowerChar at h ⊢
  split at h
  · rename_i hascii
    rw [if_pos hascii, letterCount, List.map_singleton, toLower_toLower]
    exact Nat.le_refl _
  · rename_i hascii
    rw [if_neg hascii]
    split at h
    · have hdot := h (Char.ofNat 0x307) (by simp)
      exact absurd hdot (by decide)
    · rename_i hdotted
      rw [if_neg hdotted]
      have hfolded := shift_folded folds_lowerOffsets (Nat.le_of_not_lt hascii)
        (h _ (List.mem_singleton.mpr rfl))
      rw [letterCount_folded hl (List.forall_mem_singleton.mpr hfolded)]
      exact Nat.zero_le _

theorem letterCount_upperChar_le {letter : Char} (hl : letter ∈ plainLetters) {c : Char}
    (h : ∀ d ∈ upperChar c, d.toNat < 128) :
    letterCount letter (upperChar c) ≤ letterCount letter [c] := by
  unfold upperChar at h ⊢
  split at h
  · rename_i hascii
    rw [if_pos hascii, letterCount, List.map_singleton, toLower_toUpper]
    exact Nat.le_refl _
  · rename_i hascii
    rw [if_neg hascii]
    split at h
    · rename_i n form hfind
      have hform : ∀ d ∈ form.map Char.ofNat, d ∈ foldedLetters := by
        have hfolded := upperExpansions_folded _ (List.mem_of_find?_eq_some hfind)
          fun n hn => h _ (List.mem_map_of_mem hn)
        exact List.forall_mem_map.mpr hfolded
      rw [letterCount_folded hl hform]
      exact Nat.zero_le _
    · have hfolded := shift_folded folds_upperOffsets (Nat.le_of_not_lt hascii)
        (h _ (List.mem_singleton.mpr rfl))
      rw [letterCount_folded hl (List.forall_mem_singleton.mpr hfolded)]
      exact Nat.zero_le _

end Unicode

namespace CamelCase
open Unicode

/-- By induction on what is left of a run, for every word that was begun in front of it. -/
theorem flatten_splitWords (mode : Mode) (word : List Char) (c : Char) (cs : List Char) :
    (splitWords mode word (c :: cs)).flatten = word.reverse ++ c :: cs := by
  induction cs generalizing mode word c with
  | nil => simp [splitWords]
  | cons next rest ih =>
    rw [splitWords]
    split
    · rw [List.flatten_cons, ih]
      simp
    · split
      · rw [List.flatten_cons, ih]
        rfl
      · rw [ih]
        simp

theorem flatten_words (cs : List Char) : (words cs).flatten = cs.filter isAlphanumeric := by
  have hword : ∀ run : List Char, (splitWords .boundary [] run).flatten = run := by
    intro run
    cases run with
    | nil => rfl
    | cons c run => exact flatten_splitWords .boundary [] c run
  have hflat := flatten_splitOnP (fun c => !isAlphanumeric c) cs
  simp only [Bool.not_not] at hflat
  rw [words, ← hflat, List.flatMap_def, List.flatten_flatten, List.map_map]
  congr 1
  exact List.map_id'' hword _

section

variable {letter : Char} (hl : letter ∈ plainLetters)
include hl

theorem letterCount_lowerWord_le (word : List Char) (h : ∀ d ∈ lowerWord word, d.toNat < 128) :
    letterCount letter (lowerWord word) ≤ letterCount letter word := by
  fun_induction lowerWord word with
  | case1 => exact Nat.le_refl _
  | case2 =>
    have hsigma := h 'ς' (List.mem_singleton.mpr rfl)
    exact absurd hsigma (by decide)
  | case3 c rest _ ih =>
    rw [letterCount_append, letterCount_cons c rest]
    have hfirst := letterCount_lowerChar_le hl fun d hd => h d (List.mem_append_left _ hd)
    have hrest := ih fun d hd => h d (List.mem_append_right _ hd)
    omega

theorem letterCount_capitalWord_le (word : List Char) (h : ∀ d ∈ capitalWord word, d.toNat < 128) :
    letterCount letter (capitalWord word) ≤ letterCount letter word := by
  cases word with
  | nil => exact Nat.le_refl _
  | cons c rest =>
    rw [capitalWord] at h ⊢
    rw [letterCount_append, letterCount_cons c rest]
    have hfirst := letterCount_upperChar_le hl fun d hd => h d (List.mem_append_left _ hd)
    have hrest := letterCount_lowerWord_le hl rest fun d hd => h d (List.mem_append_right _ hd)
    omega

theorem letterCount_lowerCamel_le (cs : List Char) (h : ∀ d ∈ lowerCamel cs, d.toNat < 128) :
    letterCount letter (lowerCamel cs) ≤ letterCount letter cs := by
  have hwords : letterCount letter (lowerCamel cs) ≤ letterCount letter (words cs).flatten := by
    unfold lowerCamel at h ⊢
    cases hwords : words cs with
    | nil => exact Nat.le_refl _
    | cons first rest =>
      rw [hwords] at h
      dsimp only at h ⊢
      rw [letterCount_append, List.flatten_cons, letterCount_append]
      have hfirst := letterCount_lowerWord_le hl first fun d hd => h d (List.mem_append_left _ hd)
      have hrest : letterCount letter (rest.flatMap capitalWord) ≤
          letterCount letter (rest.flatMap id) := by
        refine letterCount_flatMap_le fun word hword => letterCount_capitalWord_le hl word ?_
        intro d hd
        exact h d (List.mem_append_right _ (List.mem_flatMap.mpr ⟨word, hword, hd⟩))
      rw [List.flatMap_id] at hrest
      omega
  rw [flatten_words] at hwords
  exact hwords.trans (letterCount_le_of_sublist List.filter_sublist)

end

end CamelCase

namespace Naming

theorem letterCount_guardStart {letter : Char} (hl : letter ∈ plainLetters) (cs : List Char) :
    letterCount letter (guardStart cs) = letterCount letter cs := by
  have hsign : letterCount letter ['_'] = 0 := letterCount_of_no_plain hl (by simp [plainLetters])
  cases cs with
  | nil => exact hsign
  | cons c cs =>
    rw [guardStart]
    split
    · rw [letterCount_cons '_', hsign, Nat.zero_add]
    · rfl

theorem subset_guardStart (cs : List Char) : cs ⊆ guardStart cs := by
  cases cs with
  | nil => exact List.nil_subset _
  | cons c cs =>
    rw [guardStart]
    split
    · exact List.subset_cons_self _ _
    · exact List.Subset.refl _

/-- An identifier in ASCII has no more of a plain letter than its module. -/
theorem letterCount_moduleIdentifier_le {letter : Char} (hl : letter ∈ plainLetters)
    {module : String} (h : ∀ c ∈ (moduleIdentifier module).toList, c.toNat < 128) :
    letterCount letter (moduleIdentifier module).toList ≤ letterCount letter module.toList := by
  rw [moduleIdentifier, String.toList_ofList] at h ⊢
  rw [letterCount_guardStart hl]
  exact CamelCase.letterCount_lowerCamel_le hl _ fun d hd => h d (subset_guardStart _ hd)

/-- The name of a route has all plain letters of the route. -/
theorem letterCount_routeChars {letter : Char} (hl : letter ∈ plainLetters) (cs : List Char) :
    letterCount letter (routeChars cs) = letterCount letter cs := by
  have hletters : ∀ letter ∈ plainLetters, (97 ≤ letter.toNat ∧ letter.toNat ≤ 122) ∧
      letter.isAlphanum ∧ letter.toUpper.isAlphanum := by
    simp [plainLetters]
  obtain ⟨hsmall, hlower, hupper⟩ := hletters letter hl
  have hkept : ∀ c : Char, c.toLower = letter → c.isAlphanum := by
    intro c hc
    rcases (toLower_eq_iff hsmall).mp hc with rfl | rfl
    · exact hlower
    · exact hupper
  rw [letterCount, map_toLower_routeChars, letterCount, List.count_eq_countP, List.count_eq_countP,
    List.countP_map, List.countP_map, List.countP_filter]
  refine List.countP_congr fun c _ => ?_
  simp only [Function.comp_apply, Bool.and_eq_true, beq_iff_eq]
  exact ⟨And.left, fun hc => ⟨hc, hkept c hc⟩⟩

end Naming

end OpenApiGen
