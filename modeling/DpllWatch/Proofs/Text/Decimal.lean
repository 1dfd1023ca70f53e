import DpllWatch.Text.Blank
import DpllWatch.Text.Decimal

/-! Decimal digits are read back as the number that they were written for. -/

namespace DpllWatch.Text

theorem digit?_digit {d : Nat} (h : d < 10) : digit? (digit d) = some d := by
  revert d
  decide

theorem isBlank_digit {d : Nat} (h : d < 10) : isBlank (digit d) = false := by
  revert d
  decide

theorem digit_ne_plus {d : Nat} (h : d < 10) : digit d ≠ '+' := by
  revert d
  decide

theorem exists_digit_of_mem_decimal {n : Nat} {c : Char} (h : c ∈ decimal n) :
    ∃ d < 10, c = digit d := by
  fun_induction decimal n with
  | case1 n small => exact ⟨n, small, List.mem_singleton.1 h⟩
  | case2 n large ih =>
      rcases List.mem_append.1 h with leading | last
      · exact ih leading
      · exact ⟨n % 10, Nat.mod_lt n (by decide), List.mem_singleton.1 last⟩

theorem decimal_ne_nil (n : Nat) : decimal n ≠ [] := by
  rw [decimal]
  split
  · exact List.cons_ne_nil _ _
  · exact List.append_ne_nil_of_right_ne_nil _ (List.cons_ne_nil _ _)

theorem plus_not_mem_decimal (n : Nat) : '+' ∉ decimal n := by
  intro member
  obtain ⟨d, small, plus⟩ := exists_digit_of_mem_decimal member
  exact digit_ne_plus small plus.symm

theorem trim_of_forall {s : List Char} (h : ∀ c ∈ s, isBlank c = false) : trim s = s := by
  have kept {t : List Char} (within : ∀ c ∈ t, isBlank c = false) : t.dropWhile isBlank = t := by
    cases t with
    | nil => rfl
    | cons c t =>
        exact List.dropWhile_cons_of_neg (Bool.eq_false_iff.1 (within c List.mem_cons_self))
  rw [trim, kept h, kept fun c member => h c (List.mem_reverse.1 member), List.reverse_reverse]

theorem trim_decimal (n : Nat) : trim (decimal n) = decimal n := by
  apply trim_of_forall
  intro c member
  obtain ⟨d, small, rfl⟩ := exists_digit_of_mem_decimal member
  exact isBlank_digit small

theorem readDigits_decimal_append {limit n : Nat} (overflow : NumberError) (fits : n ≤ limit)
    (rest : List Char) :
    readDigits limit overflow 0 (decimal n ++ rest) = readDigits limit overflow n rest := by
  fun_induction decimal n generalizing rest with
  | case1 n small =>
      rw [List.singleton_append, readDigits, digit?_digit small]
      simp only [Nat.zero_mul, Nat.zero_add]
      rw [if_pos fits]
  | case2 n large ih =>
      have split : n / 10 * 10 + n % 10 = n := Nat.div_add_mod' n 10
      rw [List.append_assoc, ih (by omega), List.singleton_append, readDigits,
        digit?_digit (Nat.mod_lt n (by decide))]
      simp only [split]
      rw [if_pos fits]

theorem readUInt64_decimal (w : UInt64) : readUInt64 (decimal w.toNat) = .ok w := by
  have fits : w.toNat ≤ UInt64.size - 1 := Nat.le_sub_one_of_lt w.toNat_lt_size
  have read := readDigits_decimal_append .tooLarge fits []
  rw [List.append_nil] at read
  unfold readUInt64
  split
  · next empty => exact absurd empty (decimal_ne_nil _)
  · next sign => exact absurd (sign ▸ List.mem_cons_self) (plus_not_mem_decimal w.toNat)
  · next sign => exact absurd (sign ▸ List.mem_cons_self) (plus_not_mem_decimal w.toNat)
  · dsimp only
    rw [read, readDigits]
    exact congrArg Except.ok UInt64.ofNat_toNat

end DpllWatch.Text
