/-! # Searching, replacing and splitting in texts -/

namespace OpenApiGen.Text

def occurs (part : List Char) : List Char → Bool
  | [] => part.isEmpty
  | c :: rest => part.isPrefixOf (c :: rest) || occurs part rest

/-- Every `a` followed by `b`, from the left and without overlap, becomes `new`. -/
def replacePair (a b : Char) (new : List Char) : List Char → List Char
  | x :: y :: rest =>
    if x = a ∧ y = b then new ++ replacePair a b new rest
    else x :: replacePair a b new (y :: rest)
  | cs => cs

def dropLeading (c : Char) (cs : List Char) : List Char := cs.dropWhile (· == c)

/-- What is left of `cs` behind `start`. -/
def after? : (start cs : List Char) → Option (List Char)
  | [], cs => some cs
  | _ :: _, [] => none
  | s :: start, c :: cs => if s = c then after? start cs else none

/-- What stands before `ending`. -/
def before? (ending cs : List Char) : Option (List Char) :=
  (after? ending.reverse cs.reverse).map List.reverse

def dropReturn (line : List Char) : List Char :=
  (before? ['\r'] line).getD line

def terminated : List (List Char) → List (List Char)
  | [] => []
  | [last] => if last.isEmpty then [] else [last]
  | line :: rest => dropReturn line :: terminated rest

/-- Lines end at a line feed, with the carriage return before it; nothing follows the last one. -/
def lines (cs : List Char) : List (List Char) := terminated (cs.splitOn '\n')

/-- The part behind the last `c`, all of it where there is none. -/
def lastPiece (c : Char) (cs : List Char) : List Char := (cs.splitOn c).getLastD cs

theorem occurs_iff {part cs : List Char} : occurs part cs ↔ part <:+: cs := by
  induction cs with
  | nil => simp [occurs]
  | cons c rest ih =>
    rw [occurs, Bool.or_eq_true, List.isPrefixOf_iff_prefix, ih, List.infix_cons_iff]

/-- A part without a character is found on one side of it. -/
theorem infix_append_cons_iff {c : Char} {part front back : List Char} (hc : c ∉ part) :
    part <:+: front ++ c :: back ↔ part <:+: front ∨ part <:+: back := by
  have hnil : ∀ {right}, right <:+ part → right <+: c :: back → right = [] := by
    intro right hpart hstart
    cases right with
    | nil => rfl
    | cons d right =>
      obtain ⟨rfl, -⟩ := List.cons_prefix_cons.mp hstart
      exact absurd (hpart.subset (List.mem_cons_self ..)) hc
  rw [List.infix_append_iff, List.infix_cons_iff]
  constructor
  · rintro (hfront | (hstart | hback) | ⟨left, right, hsplit, hleft, hright⟩)
    · exact .inl hfront
    · exact .inl (hnil (List.suffix_refl _) hstart ▸ List.nil_infix)
    · exact .inr hback
    · rw [hnil ⟨left, hsplit.symm⟩ hright, List.append_nil] at hsplit
      exact .inl (hsplit ▸ hleft.isInfix)
  · rintro (hfront | hback)
    · exact .inl hfront
    · exact .inr (.inl (.inr hback))

theorem after?_append (start cs : List Char) : after? start (start ++ cs) = some cs := by
  induction start with
  | nil => rfl
  | cons s start ih => simp [after?, ih]

theorem after?_eq_some_iff {start cs rest : List Char} :
    after? start cs = some rest ↔ cs = start ++ rest := by
  induction start generalizing cs with
  | nil => simp [after?]
  | cons s start ih =>
    cases cs with
    | nil => simp [after?]
    | cons c cs => by_cases h : s = c <;> simp [after?, h, ih, eq_comm]

theorem before?_eq_some_iff {ending cs front : List Char} :
    before? ending cs = some front ↔ cs = front ++ ending := by
  simp only [before?, Option.map_eq_some_iff, after?_eq_some_iff]
  constructor
  · rintro ⟨r, h, rfl⟩
    rw [← List.reverse_reverse cs, h, List.reverse_append, List.reverse_reverse]
  · rintro rfl
    exact ⟨front.reverse, by simp, by simp⟩

end OpenApiGen.Text
