/-! Worst-case drift of a clock that has lost its reference: a straight line through zero. -/

namespace DpllWatch

inductive DriftError where
  | zeroTimeout
  | zeroMaxOffset
deriving DecidableEq, Repr

namespace DriftError

def message : DriftError → String
  | zeroTimeout => "holdover timeout must be greater than zero"
  | zeroMaxOffset => "max holdover offset must be greater than zero"

end DriftError

/-- `slope` is in picoseconds per second; `timer` is how many seconds the clock stays in spec. -/
structure Drift where
  slope : Float
  timer : UInt64

namespace Drift

/-- The line reaches `maxOffset` nanoseconds after `timeout` seconds, and the in-spec bound when the
timer ends. -/
def ofLimits (maxOffset timeout inSpec : UInt64) : Except DriftError Drift :=
  if timeout = 0 then .error .zeroTimeout
  else if maxOffset = 0 then .error .zeroMaxOffset
  else
    let slope := maxOffset.toFloat / timeout.toFloat * 1000.0
    .ok ⟨slope, (inSpec.toFloat * 1000.0 / slope).round.toUInt64⟩

def offsetAfter (d : Drift) (elapsed : UInt64) : Int64 :=
  (d.slope / 1000.0 * elapsed.toFloat).round.toInt64

theorem isOk_ofLimits {maxOffset timeout inSpec : UInt64} :
    (ofLimits maxOffset timeout inSpec).isOk = true ↔ timeout ≠ 0 ∧ maxOffset ≠ 0 := by
  unfold ofLimits
  split
  · simp_all [Except.isOk, Except.toBool]
  · split <;> simp_all [Except.isOk, Except.toBool]

end Drift

end DpllWatch
