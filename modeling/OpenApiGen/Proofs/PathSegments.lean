import OpenApiGen.Route
import Mathlib.Data.List.TakeWhile

/-! # Segments of paths, and the routes that path templates become -/

namespace OpenApiGen

namespace Text

@[simp] theorem dropLeading_nil (c : Char) : dropLeading c [] = [] := rfl

@[simp] theorem dropLeading_cons_self (c : Char) (cs : List Char) :
    dropLeading c (c :: cs) = dropLeading c cs := by simp [dropLeading]

theorem dropLeading_cons_of_ne {c d : Char} (h : d ≠ c) (cs : List Char) :
    dropLeading c (d :: cs) = d :: cs := by simp [dropLeading, h]

theorem ne_of_dropLeading_eq_cons {c d : Char} {cs rest : List Char}
    (h : dropLeading c cs = d :: rest) : d ≠ c := by
  induction cs with
  | nil => simp at h
  | cons e cs ih =>
    by_cases he : e = c
    · rw [he, dropLeading_cons_self] at h
      exact ih h
    · rw [dropLeading_cons_of_ne he] at h
      obtain ⟨rfl, -⟩ := List.cons.inj h
      exact he

/-- A translation that keeps `c` may be made before or after the leading ones are dropped. -/
theorem dropLeading_flatMap {c : Char} {f : Char → List Char} (hf : f c = [c]) (cs : List Char) :
    dropLeading c (cs.flatMap f) = dropLeading c ((dropLeading c cs).flatMap f) := by
  induction cs with
  | nil => rfl
  | cons d cs ih =>
    by_cases hd : d = c
    · rw [hd, List.flatMap_cons, hf, List.singleton_append, dropLeading_cons_self,
        dropLeading_cons_self]
      exact ih
    · rw [dropLeading_cons_of_ne hd]

end Text

theorem splitOn_head (c : Char) (cs : List Char) :
    ∃ tail, cs.splitOn c = cs.takeWhile (· != c) :: tail := by
  induction cs with
  | nil => exact ⟨[], rfl⟩
  | cons d cs ih =>
    obtain ⟨tail, ht⟩ := ih
    rw [List.splitOn_cons_eq_if_modifyHead, ht]
    by_cases hd : d = c
    · refine ⟨cs.takeWhile (· != c) :: tail, ?_⟩
      simp [hd]
    · exact ⟨tail, by simp [hd]⟩

theorem dropWhile_ne (c : Char) (cs : List Char) :
    cs.dropWhile (· != c) = [] ∨ ∃ tail, cs.dropWhile (· != c) = c :: tail := by
  induction cs with
  | nil => exact .inl rfl
  | cons d cs ih =>
    by_cases hd : d = c
    · exact .inr ⟨cs, by simp [hd]⟩
    · simpa [hd] using ih

/-- The first segment that is not empty begins behind the leading slashes and ends before the next
slash. -/
theorem find?_segment (cs : List Char) :
    (cs.splitOn '/').find? (fun segment => !segment.isEmpty) =
      if Text.dropLeading '/' cs = [] then none
      else some ((Text.dropLeading '/' cs).takeWhile (· != '/')) := by
  induction cs with
  | nil => rfl
  | cons c cs ih =>
    by_cases hc : c = '/'
    · subst hc
      rw [List.splitOn_cons_eq_if_modifyHead]
      simpa using ih
    · obtain ⟨tail, ht⟩ := splitOn_head '/' (c :: cs)
      rw [ht, Text.dropLeading_cons_of_ne hc]
      simp [hc]

/-- A module stands behind the leading slashes of its paths, and a segment ends there. -/
theorem moduleOf?_eq_some {path module : String} (h : moduleOf? path = some module) :
    module.toList ≠ [] ∧ '/' ∉ module.toList ∧
      ∃ rest, Text.dropLeading '/' path.toList = module.toList ++ rest ∧
        (rest = [] ∨ ∃ tail, rest = '/' :: tail) := by
  simp only [moduleOf?, find?_segment] at h
  split at h
  · simp at h
  · rename_i hne
    simp only [Option.map_some, Option.some.injEq] at h
    subst h
    obtain ⟨c, tail, hc⟩ := List.exists_cons_of_ne_nil hne
    have hslash := Text.ne_of_dropLeading_eq_cons hc
    rw [hc, String.toList_ofList]
    refine ⟨by simp [hslash], fun hm => ?_, (c :: tail).dropWhile (· != '/'), ?_, ?_⟩
    · simpa using List.mem_takeWhile_imp hm
    · exact List.takeWhile_append_dropWhile.symm
    · exact dropWhile_ne '/' (c :: tail)

/-- What becomes of a character of a path template. -/
def templateChar (c : Char) : List Char := if c = '{' then [':'] else if c = '}' then [] else [c]

theorem routeTemplate_toList (path : String) :
    (routeTemplate path).toList = path.toList.flatMap templateChar := by
  simp only [routeTemplate, String.toList_ofList]
  rfl

theorem templateChar_eq_self {c : Char} (hopen : c ≠ '{') (hclose : c ≠ '}') :
    templateChar c = [c] := by simp [templateChar, hopen, hclose]

theorem flatMap_templateChar_eq_self {cs : List Char} (hopen : '{' ∉ cs) (hclose : '}' ∉ cs) :
    cs.flatMap templateChar = cs := by
  induction cs with
  | nil => rfl
  | cons c cs ih =>
    simp only [List.mem_cons, not_or] at hopen hclose
    rw [List.flatMap_cons, ih hopen.2 hclose.2,
      templateChar_eq_self (Ne.symm hopen.1) (Ne.symm hclose.1), List.singleton_append]

theorem brace_not_mem_templateChar (c : Char) :
    '{' ∉ templateChar c ∧ '}' ∉ templateChar c := by
  unfold templateChar
  split
  · decide
  · split
    · decide
    · rename_i hopen hclose
      simp [Ne.symm hopen, Ne.symm hclose]

theorem brace_not_mem_routeTemplate (path : String) :
    '{' ∉ (routeTemplate path).toList ∧ '}' ∉ (routeTemplate path).toList := by
  simp only [routeTemplate_toList, List.mem_flatMap, not_exists, not_and]
  exact ⟨fun c _ => (brace_not_mem_templateChar c).1, fun c _ => (brace_not_mem_templateChar c).2⟩

end OpenApiGen
