/-! Accepted offset windows. -/

namespace DpllWatch

/-- Offsets in nanoseconds that count as in range, both ends included. -/
structure Window where
  min : Int64
  max : Int64
deriving DecidableEq, Repr

namespace Window

def contains (w : Window) (offset : Int64) : Bool := w.min ≤ offset && offset ≤ w.max

theorem contains_iff {w : Window} {offset : Int64} :
    w.contains offset = true ↔ w.min.toInt ≤ offset.toInt ∧ offset.toInt ≤ w.max.toInt := by
  simp [contains, Int64.le_iff_toInt_le]

def standard : Window := ⟨-100, 100⟩

instance : Inhabited Window := ⟨standard⟩

/-- The window of the offsets up to `bound` in size. The bound is taken as a signed word, and a
bound whose negation is no such word has no window. -/
def around? (bound : UInt64) : Option Window :=
  let max := bound.toInt64
  if max = Int64.minValue then none else some ⟨-max, max⟩

theorem around?_eq_none_iff {bound : UInt64} :
    around? bound = none ↔ bound = 9223372036854775808 := by
  have least : bound.toInt64 = Int64.minValue ↔ bound = 9223372036854775808 :=
    ⟨fun h => congrArg Int64.toUInt64 h, fun h => congrArg UInt64.toInt64 h⟩
  rw [← least, around?]
  split <;> simp_all

end Window

end DpllWatch
