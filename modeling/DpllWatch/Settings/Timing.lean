import DpllWatch.Span

/-! Periods, queue size and the place of the status files. -/

namespace DpllWatch

/-- All periods are in milliseconds. `holdoverTick` is the length of one second of holdover. -/
structure Timing where
  pollInterval : UInt64
  holdoverTick : UInt64
  redialDelay : UInt64
  redialMaxDelay : UInt64
  receiveTimeout : UInt64
  queueDepth : UInt64
  statusRoot : String
deriving DecidableEq, Repr

namespace Timing

def standard : Timing where
  pollInterval := 1000
  holdoverTick := 1000
  redialDelay := 250
  redialMaxDelay := 250
  receiveTimeout := 500
  queueDepth := 100
  statusRoot := "/sys/class/net"

private def atLeastOne (ms : UInt64) : Span := .ofMillis (max ms 1)

def pollSpan (t : Timing) : Span := atLeastOne t.pollInterval

def tickSpan (t : Timing) : Span := atLeastOne t.holdoverTick

theorem tickSpan_pos (t : Timing) : 0 < t.tickSpan.nanos := by
  have h : 0 < (max t.holdoverTick 1).toNat := by
    unfold max instMaxUInt64 maxOfLe
    dsimp only
    split
    · decide
    · rename_i h
      have := mt UInt64.le_iff_toNat_le.2 h
      have : (1 : UInt64).toNat = 1 := rfl
      omega
  exact Nat.mul_pos h (by decide)

def redialSpan (t : Timing) : Span := .ofMillis t.redialDelay

def redialMaxSpan (t : Timing) : Span := .ofMillis (max t.redialMaxDelay t.redialDelay)

def receiveSpan (t : Timing) : Span := atLeastOne t.receiveTimeout

end Timing

end DpllWatch
