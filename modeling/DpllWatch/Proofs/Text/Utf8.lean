import DpllWatch.Text.Utf8

/-! Text written as UTF-8 reads back as it was, character by character, whatever follows it. -/

namespace DpllWatch.Text.Utf8

private theorem lead_eq (b : UInt8) :
    lead b =
      let n := b.toNat
      if n < 0x80 then some (n, [])
      else if n < 0xC2 then none
      else if n < 0xE0 then some (n - 0xC0, [(0x80, 0xBF)])
      else if n = 0xE0 then some (0, [(0xA0, 0xBF), (0x80, 0xBF)])
      else if n = 0xED then some (13, [(0x80, 0x9F), (0x80, 0xBF)])
      else if n < 0xF0 then some (n - 0xE0, [(0x80, 0xBF), (0x80, 0xBF)])
      else if n = 0xF0 then some (0, [(0x90, 0xBF), (0x80, 0xBF), (0x80, 0xBF)])
      else if n < 0xF4 then some (n - 0xF0, [(0x80, 0xBF), (0x80, 0xBF), (0x80, 0xBF)])
      else if n = 0xF4 then some (4, [(0x80, 0x8F), (0x80, 0xBF), (0x80, 0xBF)])
      else none := by
  simp only [lead, UInt8.lt_iff_toNat_lt, ← UInt8.toNat_inj]
  rfl

theorem lead_one {n : Nat} (h : n < 0x80) : lead n.toUInt8 = some (n, []) := by
  have value : n.toUInt8.toNat = n := by simp; omega
  simp only [lead_eq, value, h, if_true]

theorem lead_two {k : Nat} (low : 2 ≤ k) (high : k < 32) :
    lead (0xC0 + k).toUInt8 = some (k, [(0x80, 0xBF)]) := by
  have value : (0xC0 + k).toUInt8.toNat = 0xC0 + k := by simp; omega
  simp only [lead_eq, value]
  rw [if_neg (by omega), if_neg (by omega), if_pos (by omega), Nat.add_sub_cancel_left]

theorem lead_three {k : Nat} (high : k < 16) :
    lead (0xE0 + k).toUInt8 =
      some (k, [(if k = 0 then 0xA0 else 0x80, if k = 13 then 0x9F else 0xBF),
        (0x80, 0xBF)]) := by
  have value : (0xE0 + k).toUInt8.toNat = 0xE0 + k := by simp; omega
  simp only [lead_eq, value]
  rw [if_neg (by omega), if_neg (by omega), if_neg (by omega)]
  by_cases first : k = 0
  · simp [first]
  rw [if_neg (by omega)]
  by_cases surrogates : k = 13
  · simp [surrogates]
  rw [if_neg (by omega), if_pos (by omega), if_neg first, if_neg surrogates,
    Nat.add_sub_cancel_left]

theorem lead_four {k : Nat} (high : k < 5) :
    lead (0xF0 + k).toUInt8 =
      some (k, [(if k = 0 then 0x90 else 0x80, if k = 4 then 0x8F else 0xBF),
        (0x80, 0xBF), (0x80, 0xBF)]) := by
  have value : (0xF0 + k).toUInt8.toNat = 0xF0 + k := by simp; omega
  simp only [lead_eq, value]
  rw [if_neg (by omega), if_neg (by omega), if_neg (by omega), if_neg (by omega),
    if_neg (by omega), if_neg (by omega)]
  by_cases first : k = 0
  · simp [first]
  rw [if_neg (by omega)]
  by_cases last : k = 4
  · simp [last]
  rw [if_pos (by omega), if_neg first, if_neg last, Nat.add_sub_cancel_left]

theorem continueWith_cons {low high : UInt8} {k : Nat} (value : Nat)
    (ranges : List (UInt8 × UInt8)) (rest : List UInt8) (lower : low.toNat ≤ 0x80 + k)
    (upper : 0x80 + k ≤ high.toNat) :
    continueWith value ((low, high) :: ranges) ((0x80 + k).toUInt8 :: rest) =
      continueWith (value * 64 + k) ranges rest := by
  have byte : (0x80 + k).toUInt8.toNat = 0x80 + k := by
    have := high.toNat_lt
    simp
    omega
  simp only [continueWith, UInt8.le_iff_toNat_le, byte]
  rw [if_pos ⟨lower, upper⟩, Nat.add_sub_cancel_left]

theorem continueWith_tail {k : Nat} (small : k < 64) (value : Nat)
    (ranges : List (UInt8 × UInt8)) (rest : List UInt8) :
    continueWith value ((0x80, 0xBF) :: ranges) ((0x80 + k).toUInt8 :: rest) =
      continueWith (value * 64 + k) ranges rest :=
  continueWith_cons value ranges rest (Nat.le_add_right 0x80 k)
    (show 0x80 + k ≤ 0xBF by omega)

theorem pieces_encodeChar (c : Char) (rest : List UInt8) :
    pieces (encodeChar c ++ rest) = some c :: pieces rest := by
  have scalar : c.toNat < 0xD800 ∨ 0xDFFF < c.toNat ∧ c.toNat < 0x110000 := c.valid
  have value : Char.ofNat c.toNat = c := Char.ofNat_toNat c
  unfold encodeChar
  generalize c.toNat = n at scalar value
  dsimp only
  split
  next one =>
    rw [List.singleton_append, pieces_cons, next, lead_one one]
    simp only [continueWith, Option.map_some, value]
  split
  next two =>
    rw [List.cons_append, pieces_cons, next, lead_two (by omega) (by omega)]
    simp only [List.singleton_append]
    rw [continueWith_tail (by omega)]
    simp only [continueWith, Option.map_some, Nat.div_add_mod' n 64, value]
  split
  next three =>
    rw [List.cons_append, pieces_cons, next, lead_three (by omega)]
    simp only [List.cons_append, List.nil_append]
    rw [continueWith_cons, continueWith_tail (by omega)]
    · have whole : (n / 4096 * 64 + n / 64 % 64) * 64 + n % 64 = n := by omega
      simp only [continueWith, Option.map_some, whole, value]
    · split
      · show 0xA0 ≤ _
        omega
      · exact Nat.le_add_right 0x80 _
    · split
      · show _ ≤ 0x9F
        omega
      · show _ ≤ 0xBF
        omega
  next four =>
    rw [List.cons_append, pieces_cons, next, lead_four (by omega)]
    simp only [List.cons_append, List.nil_append]
    rw [continueWith_cons, continueWith_tail (by omega), continueWith_tail (by omega)]
    · have whole : ((n / 262144 * 64 + n / 4096 % 64) * 64 + n / 64 % 64) * 64 + n % 64 = n := by
        omega
      simp only [continueWith, Option.map_some, whole, value]
    · split
      · show 0x90 ≤ _
        omega
      · exact Nat.le_add_right 0x80 _
    · split
      · show _ ≤ 0x8F
        omega
      · show _ ≤ 0xBF
        omega

theorem pieces_encode (s : List Char) : pieces (encode s) = s.map some := by
  induction s with
  | nil => exact pieces_nil
  | cons c s ih =>
      rw [encode, List.flatMap_cons, pieces_encodeChar]
      exact congrArg (some c :: ·) ih

@[simp] theorem decodeLossy_encode (s : List Char) : decodeLossy (encode s) = s := by
  rw [decodeLossy, pieces_encode, List.map_map]
  exact List.map_id s

theorem eq_nul_of_zero_mem_encodeChar {c : Char} (h : 0 ∈ encodeChar c) : c = '\x00' := by
  have scalar : c.toNat < 0xD800 ∨ 0xDFFF < c.toNat ∧ c.toNat < 0x110000 := c.valid
  have value : Char.ofNat c.toNat = c := Char.ofNat_toNat c
  have zero {k : Nat} (byte : k < 0x100) (written : 0 = k.toUInt8) : k = 0 := by
    have := congrArg UInt8.toNat written
    simp at this
    omega
  unfold encodeChar at h
  generalize c.toNat = n at scalar value h
  dsimp only at h
  split at h
  next one =>
    have nul : n = 0 := zero (by omega) (List.mem_singleton.1 h)
    rw [← value, nul]
  -- Every byte of a longer character has its high bit.
  split at h
  next two =>
    simp only [List.mem_cons, List.not_mem_nil, or_false] at h
    rcases h with h | h <;> have := zero (by omega) h <;> omega
  split at h
  next three =>
    simp only [List.mem_cons, List.not_mem_nil, or_false] at h
    rcases h with h | h | h <;> have := zero (by omega) h <;> omega
  next four =>
    simp only [List.mem_cons, List.not_mem_nil, or_false] at h
    rcases h with h | h | h | h <;> have := zero (by omega) h <;> omega

theorem zero_not_mem_encode {s : List Char} (h : '\x00' ∉ s) : 0 ∉ encode s := by
  intro zero
  obtain ⟨c, member, zero⟩ := List.mem_flatMap.1 zero
  exact h (eq_nul_of_zero_mem_encodeChar zero ▸ member)

end DpllWatch.Text.Utf8
