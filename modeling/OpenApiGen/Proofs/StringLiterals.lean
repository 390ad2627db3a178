import OpenApiGen.JsonReading
import Mathlib.Data.List.Basic

/-!
# What a string literal stands for

A literal in double quotes is read as in strict code of ECMAScript: up to the first quote that no
backslash escapes, on one line. What it stands for are code units of UTF-16. A text that was put
between quotes as it is stands for itself where it holds neither a quote nor a backslash, and no
line ends in it; in all other cases it stands for something else, or the literal ends elsewhere.
-/

namespace OpenApiGen

/-- The code units of a code point. -/
def utf16Point (n : Nat) : List Nat :=
  if n < 0x10000 then [n]
  else [0xd800 + (n - 0x10000) / 0x400, 0xdc00 + (n - 0x10000) % 0x400]

def utf16 (cs : List Char) : List Nat := cs.flatMap fun c => utf16Point c.toNat

namespace StringLiteral

/-- The code point whose hexadecimal digits stand before a closing brace. -/
def braced? (value : Nat) : List Char → Option (Nat × List Char)
  | [] => none
  | c :: rest =>
    if c = '}' then some (value, rest)
    else do
      let digit ← JsonText.hex? c
      if value * 16 + digit ≤ 0x10ffff then braced? (value * 16 + digit) rest else none

/-- Other characters than these letters stand for themselves behind a backslash. -/
def escapedUnits (c : Char) : List Nat :=
  match c with
  | 'b' => [8]
  | 't' => [9]
  | 'n' => [10]
  | 'v' => [11]
  | 'f' => [12]
  | 'r' => [13]
  | c => utf16Point c.toNat

def lineEnds : List Char := ['\n', '\r', '\u2028', '\u2029']

/-- What stands behind a backslash: the code units it is for, and what follows. The end of a line is
for nothing, and a zero for itself where no digit follows. -/
def escape? : List Char → Option (List Nat × List Char)
  | 'x' :: a :: b :: rest => do
    return ([(← JsonText.hex? a) * 16 + (← JsonText.hex? b)], rest)
  | 'u' :: '{' :: c :: rest => do
    let (point, rest) ← braced? (← JsonText.hex? c) rest
    return (utf16Point point, rest)
  | 'u' :: a :: b :: c :: d :: rest => do
    let bits := (← JsonText.hex? a) * 4096 + (← JsonText.hex? b) * 256 + (← JsonText.hex? c) * 16
      + (← JsonText.hex? d)
    return ([bits], rest)
  | '\r' :: '\n' :: rest => some ([], rest)
  | c :: rest =>
    if c ∈ lineEnds then some ([], rest)
    else if c = '0' then if rest.head?.any Char.isDigit then none else some ([0], rest)
    else if c.isDigit || c = 'x' || c = 'u' then none
    else some (escapedUnits c, rest)
  | [] => none

theorem length_utf16Point_le (n : Nat) : (utf16Point n).length ≤ 2 := by
  unfold utf16Point
  split <;> simp

theorem length_utf16Point_pos (n : Nat) : 0 < (utf16Point n).length := by
  unfold utf16Point
  split <;> simp

theorem length_le_utf16 (cs : List Char) : cs.length ≤ (utf16 cs).length := by
  induction cs with
  | nil => exact Nat.le_refl 0
  | cons c cs ih =>
    have hpos := length_utf16Point_pos c.toNat
    rw [utf16, List.flatMap_cons, List.length_append, ← utf16, List.length_cons]
    omega

theorem utf16_append (cs ds : List Char) : utf16 (cs ++ ds) = utf16 cs ++ utf16 ds :=
  List.flatMap_append

theorem exists_of_braced? {value point : Nat} {cs rest : List Char}
    (h : braced? value cs = some (point, rest)) : ∃ front, cs = front ++ rest := by
  induction cs generalizing value with
  | nil => cases h
  | cons c cs ih =>
    rw [braced?] at h
    split at h
    · cases h
      exact ⟨[c], rfl⟩
    · simp only [Option.bind_eq_bind, Option.bind_eq_some_iff] at h
      obtain ⟨digit, -, h⟩ := h
      split at h
      · obtain ⟨front, rfl⟩ := ih h
        exact ⟨c :: front, rfl⟩
      · cases h

theorem length_escapedUnits_le (c : Char) : (escapedUnits c).length ≤ (utf16 [c]).length := by
  have hone : utf16 [c] = utf16Point c.toNat := by simp [utf16]
  have hpos : 1 ≤ (utf16 [c]).length := length_le_utf16 [c]
  unfold escapedUnits
  split
  case h_7 => exact hone ▸ Nat.le_refl _
  all_goals exact hpos

/-- An escape is not for more code units than it is written with. -/
theorem exists_of_escape? {cs rest : List Char} {units : List Nat}
    (h : escape? cs = some (units, rest)) :
    ∃ front, cs = front ++ rest ∧ units.length ≤ (utf16 front).length := by
  unfold escape? at h
  split at h
  · rename_i a b behind
    simp only [Option.bind_eq_bind, Option.bind_eq_some_iff, Option.pure_def, Option.some.injEq,
      Prod.mk.injEq] at h
    obtain ⟨_, -, _, -, rfl, rfl⟩ := h
    exact ⟨['x', a, b], rfl, Nat.le_trans (by simp) (length_le_utf16 _)⟩
  · rename_i c behind
    simp only [Option.bind_eq_bind, Option.bind_eq_some_iff, Option.pure_def, Option.some.injEq,
      Prod.mk.injEq, Prod.exists] at h
    obtain ⟨_, -, point, _, hbraced, rfl, rfl⟩ := h
    obtain ⟨front, rfl⟩ := exists_of_braced? hbraced
    refine ⟨'u' :: '{' :: c :: front, rfl, Nat.le_trans (length_utf16Point_le point) ?_⟩
    exact Nat.le_trans (by simp) (length_le_utf16 _)
  · rename_i a b c d behind _
    simp only [Option.bind_eq_bind, Option.bind_eq_some_iff, Option.pure_def, Option.some.injEq,
      Prod.mk.injEq] at h
    obtain ⟨_, -, _, -, _, -, _, -, rfl, rfl⟩ := h
    exact ⟨['u', a, b, c, d], rfl, Nat.le_trans (by simp) (length_le_utf16 _)⟩
  · cases h
    exact ⟨['\r', '\n'], rfl, Nat.zero_le _⟩
  · rename_i c behind _ _ _ _
    split at h
    · cases h
      exact ⟨[c], rfl, Nat.zero_le _⟩
    · split at h
      · split at h
        · cases h
        · cases h
          exact ⟨[c], rfl, Nat.le_trans (by simp) (length_le_utf16 _)⟩
      · split at h
        · cases h
        · cases h
          exact ⟨[c], rfl, length_escapedUnits_le c⟩
  · cases h

theorem length_le_of_escape? {cs rest : List Char} {units : List Nat}
    (h : escape? cs = some (units, rest)) : rest.length ≤ cs.length := by
  obtain ⟨front, rfl, -⟩ := exists_of_escape? h
  simp

/-- The code units up to the closing quote, and what follows. -/
def readBody (cs : List Char) : Option (List Nat × List Char) :=
  match cs with
  | [] => none
  | c :: rest =>
    if c = '"' then some ([], rest)
    else if c = '\\' then
      match _h : escape? rest with
      | none => none
      | some (units, behind) => (readBody behind).map fun (more, rest) => (units ++ more, rest)
    else if c = '\n' ∨ c = '\r' then none
    else (readBody rest).map fun (more, rest) => (utf16Point c.toNat ++ more, rest)
termination_by cs.length
decreasing_by
  · exact Nat.lt_succ_of_le (length_le_of_escape? _h)
  · exact Nat.lt_succ_self _

/-- The literal that a source starts with, and what follows. -/
def read? : List Char → Option (List Nat × List Char)
  | '"' :: rest => readBody rest
  | _ => none

/-- The characters that a literal does not take as they are. -/
def marks : List Char := ['"', '\\', '\n', '\r']

/-- Nothing in a text ends a literal, starts an escape or breaks the line. -/
def Verbatim (cs : List Char) : Prop := ∀ c ∈ cs, c ∉ marks

instance (cs : List Char) : Decidable (Verbatim cs) := inferInstanceAs (Decidable (∀ c ∈ cs, _))

theorem readBody_of_verbatim {cs : List Char} (h : Verbatim cs) (rest : List Char) :
    readBody (cs ++ '"' :: rest) = some (utf16 cs, rest) := by
  induction cs with
  | nil =>
    rw [List.nil_append, readBody, if_pos rfl]
    rfl
  | cons c cs ih =>
    obtain ⟨hc, hcs⟩ := List.forall_mem_cons.mp h
    simp only [marks, List.mem_cons, List.not_mem_nil, or_false, not_or] at hc
    obtain ⟨hquote, hslash, hline⟩ := hc
    rw [List.cons_append, readBody, if_neg hquote, if_neg hslash, if_neg (not_or.mpr hline), ih hcs]
    rfl

/-- What is read has not more code units than are written, and as many only where every character
stands for itself. -/
theorem exists_of_readBody {cs : List Char} {units : List Nat} {rest : List Char}
    (h : readBody cs = some (units, rest)) :
    ∃ body, cs = body ++ '"' :: rest ∧ units.length ≤ (utf16 body).length ∧
      (units.length = (utf16 body).length → Verbatim body) := by
  fun_induction readBody cs generalizing units rest with
  | case1 => cases h
  | case2 behind =>
    cases h
    exact ⟨[], rfl, Nat.zero_le _, fun _ => nofun⟩
  | case3 => cases h
  | case4 behind escaped after hescape hne ih =>
    -- the backslash itself is for no code unit
    obtain ⟨⟨more, rest'⟩, hmore, heq⟩ := Option.map_eq_some_iff.mp h
    obtain ⟨hunits, hrest⟩ := Prod.mk.inj heq
    obtain ⟨front, rfl, hfront⟩ := exists_of_escape? hescape
    obtain ⟨body, rfl, hle, -⟩ := ih hmore
    have hlt : units.length < (utf16 ('\\' :: (front ++ body))).length := by
      have hslash : utf16 ('\\' :: (front ++ body)) = 92 :: (utf16 front ++ utf16 body) := by
        rw [← utf16_append]
        rfl
      rw [← hunits, hslash]
      simp only [List.length_append, List.length_cons]
      omega
    refine ⟨'\\' :: (front ++ body), ?_, Nat.le_of_lt hlt, fun he => absurd he (Nat.ne_of_lt hlt)⟩
    rw [List.cons_append, List.append_assoc, hrest]
  | case5 => cases h
  | case6 c behind hquote hslash hline ih =>
    obtain ⟨⟨more, rest'⟩, hmore, heq⟩ := Option.map_eq_some_iff.mp h
    obtain ⟨hunits, hrest⟩ := Prod.mk.inj heq
    obtain ⟨body, rfl, hle, hverbatim⟩ := ih hmore
    have hcons : utf16 (c :: body) = utf16Point c.toNat ++ utf16 body := rfl
    refine ⟨c :: body, ?_, ?_, fun he => ?_⟩
    · rw [List.cons_append, hrest]
    · rw [← hunits, hcons, List.length_append, List.length_append]
      exact Nat.add_le_add_left hle _
    · rw [← hunits, hcons, List.length_append, List.length_append] at he
      refine List.forall_mem_cons.mpr ⟨?_, hverbatim (Nat.add_left_cancel he)⟩
      simp only [marks, List.mem_cons, List.not_mem_nil, or_false, not_or]
      exact ⟨hquote, hslash, not_or.mp hline⟩

theorem read?_quoted_iff {cs rest : List Char} :
    read? ('"' :: (cs ++ '"' :: rest)) = some (utf16 cs, rest) ↔ Verbatim cs := by
  constructor
  · intro h
    obtain ⟨body, hbody, -, hverbatim⟩ := exists_of_readBody h
    have heq : cs = body := List.append_cancel_right hbody
    exact heq ▸ hverbatim (by rw [heq])
  · intro h
    exact readBody_of_verbatim h rest

end StringLiteral

end OpenApiGen
