/-! Little-endian words in byte strings. -/

namespace DpllWatch

abbrev Bytes := List UInt8

namespace Bytes

/-- The value of a whole byte string, its first byte being the lowest. -/
def toNat : Bytes → Nat
  | [] => 0
  | b :: rest => b.toNat + 256 * toNat rest

def ofNat : (width : Nat) → Nat → Bytes
  | 0, _ => []
  | width + 1, n => n.toUInt8 :: ofNat width (n / 256)

def word (b : Bytes) (offset width : Nat) : Nat := toNat ((b.drop offset).take width)

@[simp] theorem length_ofNat (width n : Nat) : (ofNat width n).length = width := by
  induction width generalizing n with
  | zero => rfl
  | succ width ih => simp [ofNat, ih]

end Bytes

end DpllWatch
