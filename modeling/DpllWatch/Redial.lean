import DpllWatch.Span

/-! The waits between attempts to reconnect: each is twice the one before, up to a cap. -/

namespace DpllWatch.Redial

/-- `attempts` counts the waits handed out since the last reset and stays at its largest value. -/
structure Schedule where
  base : Span
  cap : Span
  next : Span
  attempts : UInt32
deriving DecidableEq, Repr

namespace Schedule

def doubling (base cap : Span) : Schedule := ⟨base, cap.max base, base, 0⟩

def fixed (wait : Span) : Schedule := doubling wait wait

private def count (n : UInt32) : UInt32 := if n = UInt32.ofNat (UInt32.size - 1) then n else n + 1

/-- Hands out the next wait. There is none if its double is no span; the attempt still counts. -/
def draw (s : Schedule) : Option Span × Schedule :=
  let s := { s with attempts := count s.attempts }
  match s.next.double? with
  | none => (none, s)
  | some twice => (some s.next, { s with next := twice.min s.cap })

def reset (s : Schedule) : Schedule := { s with next := s.base, attempts := 0 }

end Schedule

end DpllWatch.Redial
