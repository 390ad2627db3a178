import OpenApiGen.Utf8

/-!
# Bytes of texts

The bytes of a text are decoded to the text again. Bytes that are none of a text are decoded on both
sides of an ASCII byte apart.
-/

namespace OpenApiGen.Utf8

variable {a b c d n count low high : Nat} {rest : List Nat}

/-! ## Decoding, one character after the other -/

theorem decode_ascii (ha : a < 0x80) : decode (a :: rest) = Char.ofNat a :: decode rest := by
  rw [decode.eq_def]
  simp only [if_pos ha]

theorem decode_stray (ha : ¬a < 0x80) (hl : lead? a = none) :
    decode (a :: rest) = replacement :: decode rest := by
  rw [decode.eq_def]
  simp only [if_neg ha, hl]

theorem decode_broken_second (ha : ¬a < 0x80) (hl : lead? a = some (count, low, high))
    (hb : ¬(low ≤ b ∧ b ≤ high)) : decode (a :: b :: rest) = replacement :: decode (b :: rest) := by
  rw [decode.eq_def]
  simp only [if_neg ha, hl, if_neg hb]

theorem decode_two (ha : ¬a < 0x80) (hl : lead? a = some (1, low, high))
    (hb : low ≤ b ∧ b ≤ high) :
    decode (a :: b :: rest) = Char.ofNat ((a - 0xc0) * 0x40 + (b - 0x80)) :: decode rest := by
  rw [decode.eq_def]
  simp only [if_neg ha, hl, if_pos hb, if_true]

theorem decode_broken_third (ha : ¬a < 0x80) (hl : lead? a = some (count, low, high))
    (hb : low ≤ b ∧ b ≤ high) (hone : count ≠ 1) (hc : isTail c = false) :
    decode (a :: b :: c :: rest) = replacement :: decode (c :: rest) := by
  rw [decode.eq_def]
  simp only [if_neg ha, hl, if_pos hb, if_neg hone, hc]
  rfl

theorem decode_three (ha : ¬a < 0x80) (hl : lead? a = some (2, low, high))
    (hb : low ≤ b ∧ b ≤ high) (hc : isTail c) :
    decode (a :: b :: c :: rest) =
      Char.ofNat ((a - 0xe0) * 0x1000 + (b - 0x80) * 0x40 + (c - 0x80)) :: decode rest := by
  rw [decode.eq_def]
  simp only [if_neg ha, hl, if_pos hb, hc, if_true]
  rfl

theorem decode_broken_fourth (ha : ¬a < 0x80) (hl : lead? a = some (count, low, high))
    (hb : low ≤ b ∧ b ≤ high) (hone : count ≠ 1) (hc : isTail c) (htwo : count ≠ 2)
    (hd : isTail d = false) :
    decode (a :: b :: c :: d :: rest) = replacement :: decode (d :: rest) := by
  rw [decode.eq_def]
  simp only [if_neg ha, hl, if_pos hb, if_neg hone, hc, if_neg htwo, hd, if_true]
  rfl

theorem decode_four (ha : ¬a < 0x80) (hl : lead? a = some (count, low, high))
    (hb : low ≤ b ∧ b ≤ high) (hone : count ≠ 1) (hc : isTail c) (htwo : count ≠ 2)
    (hd : isTail d) :
    decode (a :: b :: c :: d :: rest) =
      Char.ofNat ((a - 0xf0) * 0x40000 + (b - 0x80) * 0x1000 + (c - 0x80) * 0x40 + (d - 0x80))
        :: decode rest := by
  rw [decode.eq_def]
  simp only [if_neg ha, hl, if_pos hb, if_neg hone, hc, if_neg htwo, hd, if_true]

theorem le_low_of_lead? (h : lead? a = some (count, low, high)) : 0x80 ≤ low := by
  unfold lead? at h
  grind

theorem isTail_of_ascii (hn : n < 0x80) : isTail n = false := by
  simp only [isTail, Bool.and_eq_false_iff, decide_eq_false_iff_not]
  omega

/-- An ASCII byte is a character of its own whatever stands in front of it, for it follows in no
other character. -/
theorem decode_append_ascii (hn : n < 0x80) (front rest : List Nat) :
    decode (front ++ n :: rest) = decode front ++ Char.ofNat n :: decode rest := by
  have hnil : decode (n :: rest) = Char.ofNat n :: decode rest := decode_ascii hn
  have htail : isTail n = false := isTail_of_ascii hn
  -- one case for each way in which the first character of `front` is read, or breaks off
  fun_induction decode front with
  | case1 => exact hnil
  | case2 a more ha ih => rw [List.cons_append, decode_ascii ha, ih, List.cons_append]
  | case3 a ha more hl ih => rw [List.cons_append, decode_stray ha hl, ih, List.cons_append]
  | case4 a ha range hl =>
    obtain ⟨count, low, high⟩ := range
    have hlow : 0x80 ≤ low := le_low_of_lead? hl
    have hb : ¬(low ≤ n ∧ n ≤ high) := by omega
    rw [List.cons_append, List.nil_append, decode_broken_second ha hl hb, hnil]
    rfl
  | case5 a ha low high b more hb hl ih =>
    rw [List.cons_append, List.cons_append, decode_two ha hl hb, ih, List.cons_append]
  | case6 a ha count low high b hl hb hone =>
    rw [List.cons_append, List.cons_append, List.nil_append,
      decode_broken_third ha hl hb hone htail, hnil]
    rfl
  | case7 a ha low high b hb c more hc hl hone ih =>
    rw [List.cons_append, List.cons_append, List.cons_append, decode_three ha hl hb hc, ih,
      List.cons_append]
  | case8 a ha count low high b hl hb hone c hc htwo =>
    rw [List.cons_append, List.cons_append, List.cons_append, List.nil_append,
      decode_broken_fourth ha hl hb hone hc htwo htail, hnil]
    rfl
  | case9 a ha count low high b hl hb hone c hc htwo d more hd ih =>
    rw [List.cons_append, List.cons_append, List.cons_append, List.cons_append,
      decode_four ha hl hb hone hc htwo hd, ih, List.cons_append]
  | case10 a ha count low high b hl hb hone c hc htwo d more hd ih =>
    rw [List.cons_append, List.cons_append, List.cons_append, List.cons_append,
      decode_broken_fourth ha hl hb hone hc htwo (by simpa using hd), ← List.cons_append, ih,
      List.cons_append]
  | case11 a ha count low high b hl hb hone c more hc ih =>
    rw [List.cons_append, List.cons_append, List.cons_append,
      decode_broken_third ha hl hb hone (by simpa using hc), ← List.cons_append, ih,
      List.cons_append]
  | case12 a ha count low high b more hl hb ih =>
    rw [List.cons_append, List.cons_append, decode_broken_second ha hl hb, ← List.cons_append, ih,
      List.cons_append]

/-! ## Bytes of characters -/

theorem toNat_lt (c : Char) :
    c.toNat < 0x110000 ∧ ¬(0xd800 ≤ c.toNat ∧ c.toNat ≤ 0xdfff) := by
  have h : c.toNat < 0xd800 ∨ 0xdfff < c.toNat ∧ c.toNat < 0x110000 := c.valid
  omega

/-- The bytes are those that texts of the language itself are made of. -/
theorem map_toNat_utf8EncodeChar (c : Char) :
    (String.utf8EncodeChar c).map UInt8.toNat = encodeChar c := by
  obtain ⟨hmax, -⟩ := toNat_lt c
  have hbyte : ∀ {m : Nat}, m < 256 → (UInt8.ofNat m).toNat = m := fun hm => by
    rw [UInt8.toNat_ofNat', Nat.mod_eq_of_lt hm]
  have hval : c.val.toNat = c.toNat := rfl
  unfold String.utf8EncodeChar encodeChar tail
  rw [hval]
  generalize c.toNat = n at hmax
  dsimp only
  by_cases hone : n < 0x80
  · rw [if_pos (by omega), if_pos hone, List.map_singleton, hbyte (by omega)]
  rw [if_neg (by omega), if_neg hone]
  by_cases htwo : n < 0x800
  · rw [if_pos (by omega), if_pos htwo]
    simp only [List.map_cons, List.map_nil, List.cons.injEq, and_true]
    rw [hbyte (by omega), hbyte (by omega)]
    omega
  rw [if_neg (by omega), if_neg htwo]
  by_cases hthree : n < 0x10000
  · rw [if_pos (by omega), if_pos hthree]
    simp only [List.map_cons, List.map_nil, List.cons.injEq, and_true]
    rw [hbyte (by omega), hbyte (by omega), hbyte (by omega)]
    omega
  · rw [if_neg (by omega), if_neg hthree]
    simp only [List.map_cons, List.map_nil, List.cons.injEq, and_true]
    rw [hbyte (by omega), hbyte (by omega), hbyte (by omega), hbyte (by omega)]
    omega

theorem isTail_tail (n : Nat) : isTail (tail n) := by
  have hmod : n % 0x40 < 0x40 := Nat.mod_lt n (by decide)
  unfold isTail tail
  simp only [Bool.and_eq_true, decide_eq_true_iff]
  omega

theorem lead?_of_two (h : 0x80 ≤ n) (hn : n < 0x800) :
    lead? (0xc0 + n / 0x40) = some (1, 0x80, 0xbf) := by
  unfold lead?
  rw [if_neg (by omega), if_pos (by omega)]

/-- Behind the first byte of three, the second one is in its range: it would be too small in longer
forms than necessary, and too large in halves of surrogate pairs. -/
theorem exists_lead?_of_three (h : 0x800 ≤ n) (hn : n < 0x10000)
    (hs : ¬(0xd800 ≤ n ∧ n ≤ 0xdfff)) :
    ∃ low high, lead? (0xe0 + n / 0x1000) = some (2, low, high) ∧
      low ≤ tail (n / 0x40) ∧ tail (n / 0x40) ≤ high := by
  unfold lead? tail
  rw [if_neg (by omega), if_neg (by omega)]
  by_cases hfirst : 0xe0 + n / 0x1000 = 0xe0
  · rw [if_pos hfirst]
    exact ⟨_, _, rfl, by omega, by omega⟩
  rw [if_neg hfirst]
  by_cases hlast : 0xe0 + n / 0x1000 = 0xed
  · rw [if_pos hlast]
    exact ⟨_, _, rfl, by omega, by omega⟩
  rw [if_neg hlast, if_pos (by omega)]
  exact ⟨_, _, rfl, by omega, by omega⟩

theorem exists_lead?_of_four (h : 0x10000 ≤ n) (hn : n < 0x110000) :
    ∃ low high, lead? (0xf0 + n / 0x40000) = some (3, low, high) ∧
      low ≤ tail (n / 0x1000) ∧ tail (n / 0x1000) ≤ high := by
  unfold lead? tail
  rw [if_neg (by omega), if_neg (by omega), if_neg (by omega), if_neg (by omega),
    if_neg (by omega)]
  by_cases hfirst : 0xf0 + n / 0x40000 = 0xf0
  · rw [if_pos hfirst]
    exact ⟨_, _, rfl, by omega, by omega⟩
  rw [if_neg hfirst]
  by_cases hinner : 0xf0 + n / 0x40000 < 0xf4
  · rw [if_pos hinner]
    exact ⟨_, _, rfl, by omega, by omega⟩
  rw [if_neg hinner, if_pos (by omega)]
  exact ⟨_, _, rfl, by omega, by omega⟩

theorem decode_encodeChar_append (c : Char) (rest : List Nat) :
    decode (encodeChar c ++ rest) = c :: decode rest := by
  obtain ⟨hmax, hsurrogate⟩ := toNat_lt c
  have hofNat : ∀ {m : Nat}, m = c.toNat → Char.ofNat m = c := by
    rintro m rfl
    exact Char.ofNat_toNat c
  unfold encodeChar
  dsimp only
  split
  · rename_i hone
    rw [List.cons_append, List.nil_append, decode_ascii hone, hofNat rfl]
  split
  · rename_i hone htwo
    rw [List.cons_append, List.cons_append, List.nil_append,
      decode_two (by omega) (lead?_of_two (by omega) htwo) (by unfold tail; omega),
      hofNat (by unfold tail; omega)]
  split
  · rename_i hone htwo hthree
    obtain ⟨low, high, hl, hb⟩ :=
      exists_lead?_of_three (n := c.toNat) (by omega) hthree hsurrogate
    rw [List.cons_append, List.cons_append, List.cons_append, List.nil_append,
      decode_three (by omega) hl hb (isTail_tail _), hofNat (by unfold tail; omega)]
  · rename_i hone htwo hthree
    obtain ⟨low, high, hl, hb⟩ := exists_lead?_of_four (n := c.toNat) (by omega) hmax
    rw [List.cons_append, List.cons_append, List.cons_append, List.cons_append, List.nil_append,
      decode_four (by omega) hl hb (by decide) (isTail_tail _) (by decide) (isTail_tail _),
      hofNat (by unfold tail; omega)]

theorem decode_encode (cs : List Char) : decode (encode cs) = cs := by
  induction cs with
  | nil => rw [encode, List.flatMap_nil, decode.eq_def]
  | cons c cs ih =>
    have hcons : encode (c :: cs) = encodeChar c ++ encode cs := List.flatMap_cons
    rw [hcons, decode_encodeChar_append, ih]

end OpenApiGen.Utf8
