import DpllWatch.Drift
import DpllWatch.Settings.Timing

/-! Countdowns of a holdover, on a clock that wakes exactly when it is asked to. At each tick the
owner is told the offset that the clock may have reached and answers whether it is in range. -/

namespace DpllWatch

namespace Countdown

inductive Outcome where
  | rangeExceeded
  | expired
  | cancelled
deriving DecidableEq, Repr

namespace Outcome

def all : List Outcome := [rangeExceeded, expired, cancelled]

def name : Outcome → String
  | rangeExceeded => "range_exceeded"
  | expired => "expired"
  | cancelled => "cancelled"

end Outcome

end Countdown

/-- `offsetAfter` gives the offset at each tick. The timer counts ticks. -/
structure Countdown where
  tick : Span
  tick_pos : 0 < tick.nanos
  timer : UInt32
  offsetAfter : UInt64 → Int64

/-- How a countdown meets its owner, whose state is `σ`: whether a cancel request is in place, and
what becomes of the owner at a tick, with its answer whether the offset is in range. -/
structure Countdown.Owner (σ : Type) where
  cancelled : σ → Bool
  advance : σ → Int64 → σ × Bool

namespace Countdown

variable {σ : Type}

def clampTimer (seconds : UInt64) : UInt32 :=
  if seconds.toNat < UInt32.size then seconds.toUInt32 else UInt32.ofNat (UInt32.size - 1)

def ofDrift (timing : Timing) (drift : Drift) : Countdown where
  tick := timing.tickSpan
  tick_pos := timing.tickSpan_pos
  timer := clampTimer drift.timer
  offsetAfter := drift.offsetAfter

def deadline (c : Countdown) : Nat := c.tick.nanos * c.timer.toNat

/-- What happens when a countdown that has gone through `elapsed` ticks wakes: it ends, or it tells
its owner the next offset. It wakes at the next tick or at the deadline, whichever comes first; a
cancel request goes before the deadline, and the deadline before the tick. -/
def wake (c : Countdown) (owner : Owner σ) (elapsed : Nat) (s : σ) : σ × Option Outcome :=
  if owner.cancelled s then (s, some .cancelled)
  else if c.deadline ≤ min ((elapsed + 1) * c.tick.nanos) c.deadline then (s, some .expired)
  else
    let (s, inRange) := owner.advance s (c.offsetAfter (UInt64.ofNat (elapsed + 1)))
    (s, if inRange then none else some .rangeExceeded)

theorem lt_deadline_of_wake {c : Countdown} {owner : Owner σ} {elapsed : Nat} {s s' : σ}
    (h : c.wake owner elapsed s = (s', none)) : (elapsed + 1) * c.tick.nanos < c.deadline := by
  unfold wake at h
  split at h
  · simp at h
  split at h
  · simp at h
  · omega

def runFrom (c : Countdown) (owner : Owner σ) (elapsed : Nat) (s : σ) : σ × Outcome :=
  match _h : c.wake owner elapsed s with
  | (s, some outcome) => (s, outcome)
  | (s, none) => runFrom c owner (elapsed + 1) s
termination_by c.deadline - elapsed * c.tick.nanos
decreasing_by
  have := c.tick_pos
  have := lt_deadline_of_wake _h
  have : (elapsed + 1) * c.tick.nanos = elapsed * c.tick.nanos + c.tick.nanos := by
    rw [Nat.add_mul, Nat.one_mul]
  omega

def run (c : Countdown) (owner : Owner σ) (s : σ) : σ × Outcome := c.runFrom owner 0 s

inductive Call where
  | extrapolated (episode : Nat) (offset : Int64)
  | finish (episode : Nat) (outcome : Outcome)
deriving DecidableEq, Repr

structure Target (σ : Type) where
  cancelled : σ → Bool
  extrapolated : σ → Nat → Int64 → σ × Bool
  finish : σ → Nat → Outcome → σ

def Target.owner (t : Target σ) (episode : Nat) : Owner σ where
  cancelled := t.cancelled
  advance s offset := t.extrapolated s episode offset

def attend (c : Countdown) (t : Target σ) (episode : Nat) (s : σ) : σ × Outcome :=
  let (s, outcome) := c.run (t.owner episode) s
  (t.finish s episode outcome, outcome)

/-- A target that keeps every call in order. Its cancel request, if any, is put in place during the
given call, or before the first for zero. -/
def recorder (inRange : Int64 → Bool) (cancelAfter : Option Nat) : Target (List Call) where
  cancelled calls := cancelAfter.any (· ≤ calls.length)
  extrapolated calls episode offset := (calls ++ [.extrapolated episode offset], inRange offset)
  finish calls episode outcome := calls ++ [.finish episode outcome]

def rehearse (c : Countdown) (inRange : Int64 → Bool) (cancelAfter : Option Nat) (episode : Nat) :
    List Call × Outcome :=
  c.attend (recorder inRange cancelAfter) episode []

end Countdown

end DpllWatch
