import OpenApiGen.UnicodeCase
import OpenApiGen.Proofs.PathSegments
import Mathlib.Data.List.Forall2

/-! # The slashes and dots of a text, which stay where they are in its lower-case form -/

namespace OpenApiGen

theorem splitOn_append_of_not_mem {c : Char} {front : List Char} (h : c ∉ front) (cs : List Char) :
    (front ++ cs).splitOn c = (cs.splitOn c).modifyHead (front ++ ·) := by
  induction front with
  | nil =>
    rw [List.nil_append]
    cases cs.splitOn c <;> rfl
  | cons d front ih =>
    have hd : d ≠ c := fun e => h (by simp [e])
    rw [List.cons_append, List.splitOn_cons_eq_if_modifyHead, ih fun hm => h (by simp [hm])]
    simp [hd, Function.comp_def]

/-- Only the last segment grows with what is put behind a path. -/
theorem splitOn_append_last {c : Char} (cs : List Char) {tail : List Char} (h : c ∉ tail) :
    ∃ front last, cs.splitOn c = front ++ [last] ∧
      (cs ++ tail).splitOn c = front ++ [last ++ tail] := by
  induction cs with
  | nil => exact ⟨[], [], List.splitOn_nil c, by simpa using List.splitOn_eq_singleton h⟩
  | cons d cs ih =>
    obtain ⟨front, last, hs, ht⟩ := ih
    rw [List.cons_append, List.splitOn_cons_eq_if_modifyHead, List.splitOn_cons_eq_if_modifyHead,
      hs, ht]
    by_cases hd : d = c
    · exact ⟨[] :: front, last, by simp [hd], by simp [hd]⟩
    · cases front with
      | nil => exact ⟨[], d :: last, by simp [hd], by simp [hd]⟩
      | cons first front => exact ⟨(d :: first) :: front, last, by simp [hd], by simp [hd]⟩

/-- Two texts with the same slashes and dots, and something between them at the same places. -/
inductive SameMarks : List Char → List Char → Prop
  | nil : SameMarks [] []
  | mark {c cs ds} (hc : c = '/' ∨ c = '.') (h : SameMarks cs ds) : SameMarks (c :: cs) (c :: ds)
  | other {c cs chunk ds} (hc : c ≠ '/' ∧ c ≠ '.') (hn : chunk ≠ [])
      (hm : ∀ d ∈ chunk, d ≠ '/' ∧ d ≠ '.') (h : SameMarks cs ds) :
      SameMarks (c :: cs) (chunk ++ ds)

namespace SameMarks

theorem eq_dots_iff {cs ds : List Char} (h : SameMarks cs ds) (n : Nat) :
    cs = List.replicate n '.' ↔ ds = List.replicate n '.' := by
  induction h generalizing n with
  | nil => rfl
  | mark _ _ ih => cases n <;> simp [List.replicate_succ, ih]
  | @other c cs chunk ds hc hn hm _ _ =>
    obtain ⟨d, chunk, rfl⟩ := List.exists_cons_of_ne_nil hn
    obtain ⟨-, hd⟩ := hm d (by simp)
    cases n <;> simp [List.replicate_succ, hc.2, hd]

theorem modifyHead (front front' : List Char)
    (hf : ∀ {cs ds}, SameMarks cs ds → SameMarks (front ++ cs) (front' ++ ds))
    {segments segments' : List (List Char)} (h : List.Forall₂ SameMarks segments segments') :
    List.Forall₂ SameMarks (segments.modifyHead (front ++ ·)) (segments'.modifyHead (front' ++ ·)) := by
  cases h with
  | nil => exact .nil
  | cons hfirst hrest => exact .cons (hf hfirst) hrest

theorem splitOn {cs ds : List Char} (h : SameMarks cs ds) :
    List.Forall₂ SameMarks (cs.splitOn '/') (ds.splitOn '/') := by
  induction h with
  | nil => exact .cons .nil .nil
  | @mark c cs ds hc _ ih =>
    rw [List.splitOn_cons_eq_if_modifyHead, List.splitOn_cons_eq_if_modifyHead]
    by_cases hs : c = '/'
    · simp only [hs, beq_self_eq_true, if_true]
      exact .cons .nil ih
    · simp only [beq_iff_eq, hs, if_false]
      exact modifyHead [c] [c] (fun h => .mark hc h) ih
  | @other c cs chunk ds hc hn hm _ ih =>
    have hchunk : '/' ∉ chunk := fun h => (hm _ h).1 rfl
    rw [List.splitOn_cons_eq_if_modifyHead, splitOn_append_of_not_mem hchunk]
    simp only [beq_iff_eq, hc.1, if_false]
    exact modifyHead [c] chunk (fun h => .other hc hn hm h) ih

end SameMarks

namespace Unicode

/-- No letter above ASCII has a lower-case form below the digits. -/
theorem le_lowerOffsets : ∀ entry ∈ lowerOffsets, (48 : Int) ≤ entry.1.1 + entry.2 := by
  decide +kernel

theorem ofNat_ne {n : Nat} (hn : 48 ≤ n) : Char.ofNat n ≠ '/' ∧ Char.ofNat n ≠ '.' := by
  by_cases hv : n.isValidChar
  · rw [Char.ofNat, dif_pos hv]
    constructor
    · intro h
      have hslash : n = 47 := congrArg Char.toNat h
      omega
    · intro h
      have hdot : n = 46 := congrArg Char.toNat h
      omega
  · rw [Char.ofNat, dif_neg hv]
    decide

theorem shift_ne {c : Char} (hc : 128 ≤ c.toNat) :
    shift lowerOffsets c ≠ '/' ∧ shift lowerOffsets c ≠ '.' := by
  unfold shift
  split
  · rename_i run offset hfind
    have hle := le_lowerOffsets _ (List.mem_of_find?_eq_some hfind)
    have hin := List.find?_some hfind
    simp only [inRuns, List.any_cons, List.any_nil, Bool.or_false, Bool.and_eq_true,
      decide_eq_true_eq] at hin
    obtain ⟨⟨hfirst, -⟩, -⟩ := hin
    have hoffset : (48 : Int) ≤ run.1 + offset := hle
    exact ofNat_ne (by omega)
  · constructor
    · rintro rfl
      revert hc
      decide
    · rintro rfl
      revert hc
      decide

theorem toLower_ascii_ne : ∀ n < 128, Char.ofNat n ≠ '/' ∧ Char.ofNat n ≠ '.' →
    (Char.ofNat n).toLower ≠ '/' ∧ (Char.ofNat n).toLower ≠ '.' := by
  decide

theorem lowerChar_mark {c : Char} (hc : c = '/' ∨ c = '.') : lowerChar c = [c] := by
  rcases hc with rfl | rfl <;> decide

theorem lowerChar_other {c : Char} (hc : c ≠ '/' ∧ c ≠ '.') :
    lowerChar c ≠ [] ∧ ∀ d ∈ lowerChar c, d ≠ '/' ∧ d ≠ '.' := by
  unfold lowerChar
  split
  · rename_i hascii
    have hlower := toLower_ascii_ne c.toNat hascii
    rw [Char.ofNat_toNat] at hlower
    simpa using hlower hc
  · rename_i hascii
    split
    · refine ⟨List.cons_ne_nil _ _, ?_⟩
      exact List.forall_mem_cons.mpr ⟨by decide, List.forall_mem_singleton.mpr (by decide)⟩
    · simpa using shift_ne (Nat.le_of_not_lt hascii)

theorem sameMarks_lowercaseFrom (before cs : List Char) :
    SameMarks cs (lowercaseFrom before cs) := by
  induction cs generalizing before with
  | nil => exact .nil
  | cons c cs ih =>
    rw [lowercaseFrom]
    by_cases hc : c = '/' ∨ c = '.'
    · have hsigma : c ≠ 'Σ' := by rcases hc with rfl | rfl <;> decide
      rw [if_neg hsigma, lowerChar_mark hc]
      exact .mark hc (ih _)
    · obtain ⟨hslash, hdot⟩ := not_or.mp hc
      split
      · refine .other ⟨hslash, hdot⟩ (by simp) ?_ (ih _)
        split <;> exact List.forall_mem_singleton.mpr (by decide)
      · obtain ⟨hn, hm⟩ := lowerChar_other ⟨hslash, hdot⟩
        exact .other ⟨hslash, hdot⟩ hn hm (ih _)

theorem sameMarks_lowercase (text : String) :
    SameMarks text.toList (lowercase text).toList := by
  rw [lowercase, String.toList_ofList]
  exact sameMarks_lowercaseFrom [] text.toList

end Unicode
end OpenApiGen
