import DpllWatch.Bytes
import Mathlib.Algebra.Group.Nat.Defs

/-! The values of byte strings: writing a number keeps its value modulo the width, a value is below
the power that its length allows, and the value of a concatenation follows from its parts. -/

namespace DpllWatch.Bytes

theorem toNat_ofNat (width n : Nat) : toNat (ofNat width n) = n % 256 ^ width := by
  induction width generalizing n with
  | zero => simp [ofNat, toNat, Nat.mod_one]
  | succ width ih =>
    have h : n.toUInt8.toNat = n % 256 := by simp
    simp only [ofNat, toNat, ih, h, Nat.pow_succ]
    rw [Nat.mul_comm (256 ^ width) 256, Nat.mod_mul]

theorem toNat_lt (b : Bytes) : toNat b < 256 ^ b.length := by
  induction b with
  | nil => simp [toNat]
  | cons x b ih =>
    have := x.toNat_lt
    simp only [toNat, List.length_cons, Nat.pow_succ]
    omega

theorem word_lt (b : Bytes) (offset width : Nat) : b.word offset width < 256 ^ width :=
  Nat.lt_of_lt_of_le (toNat_lt _) (Nat.pow_le_pow_right (by decide) (List.length_take_le _ _))

theorem word_take {b : Bytes} {count offset width : Nat} (within : offset + width ≤ count) :
    word (b.take count) offset width = word b offset width := by
  rw [word, word, List.drop_take, List.take_take, Nat.min_eq_left (Nat.le_sub_of_add_le' within)]

theorem toNat_eq_zero_iff (b : Bytes) : toNat b = 0 ↔ b = List.replicate b.length 0 := by
  induction b with
  | nil => simp [toNat]
  | cons x b ih =>
      have zero : x.toNat = 0 ↔ x = 0 := by rw [← UInt8.toNat_inj]; rfl
      rw [List.length_cons, List.replicate_succ, List.cons.injEq, ← ih, ← zero, toNat]
      omega

end DpllWatch.Bytes
