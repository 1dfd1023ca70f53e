import DpllWatch.Node
import Mathlib.Algebra.Group.Nat.Defs

/-! Schedules that never run out of waits, and how long their waits are. -/

namespace DpllWatch

theorem Span.isSome_double?_iff {s : Span} :
    s.double?.isSome ↔ 2 * s.nanos < UInt64.size * 1000000000 := by
  unfold Span.double? Span.ofNanos?
  split <;> simp_all

namespace Redial.Schedule

/-- No wait of the schedule is longer than its cap, and twice the cap is still a span. -/
structure Unfailing (s : Schedule) : Prop where
  base_le : s.base.nanos ≤ s.cap.nanos
  next_le : s.next.nanos ≤ s.cap.nanos
  cap_lt : 2 * s.cap.nanos < UInt64.size * 1000000000

theorem Unfailing.draw_eq {s : Schedule} (h : s.Unfailing) :
    ∃ next attempts, next.nanos = min (2 * s.next.nanos) s.cap.nanos ∧
      s.draw = (some s.next, { s with next := next, attempts := attempts }) := by
  have next_lt : 2 * s.next.nanos < UInt64.size * 1000000000 := by
    have := h.next_le
    have := h.cap_lt
    omega
  have twice : s.next.double? = some ⟨2 * s.next.nanos, next_lt⟩ := dif_pos next_lt
  unfold Schedule.draw
  simp only [twice]
  exact ⟨_, _, Span.nanos_min _ _, rfl⟩

theorem Unfailing.draw {s : Schedule} (h : s.Unfailing) :
    ∃ wait rest, s.draw = (some wait, rest) ∧ rest.Unfailing := by
  obtain ⟨next, attempts, next_eq, drawn⟩ := h.draw_eq
  refine ⟨_, _, drawn, h.base_le, ?_, h.cap_lt⟩
  rw [next_eq]
  exact Nat.min_le_right _ _

theorem Unfailing.reset {s : Schedule} (h : s.Unfailing) : s.reset.Unfailing :=
  ⟨h.base_le, h.base_le, h.cap_lt⟩

theorem unfailing_doubling {base cap : Span}
    (h : 2 * max base.nanos cap.nanos < UInt64.size * 1000000000) :
    (doubling base cap).Unfailing := by
  have longest : (cap.max base).nanos = max base.nanos cap.nanos := by
    rw [Span.nanos_max, Nat.max_comm]
  have base_le : base.nanos ≤ (cap.max base).nanos := by
    rw [longest]
    exact Nat.le_max_left _ _
  exact ⟨base_le, base_le, longest ▸ h⟩

/-! ## Waits that double -/

inductive Call where
  | draw
  | reset
deriving DecidableEq, Repr

def act (s : Schedule) : Call → Schedule
  | .draw => s.draw.2
  | .reset => s.reset

def after (s : Schedule) (calls : List Call) : Schedule := calls.foldl act s

def Call.count : Nat → Call → Nat
  | n, .draw => n + 1
  | _, .reset => 0

def drawn (calls : List Call) : Nat := calls.foldl Call.count 0

/-- The schedule has doubled its wait `n` times since it was made or reset. -/
structure Paced (base longest n : Nat) (s : Schedule) : Prop where
  unfailing : s.Unfailing
  base_eq : s.base.nanos = base
  cap_eq : s.cap.nanos = longest
  next_eq : s.next.nanos = min (base * 2 ^ n) longest

variable {base longest n : Nat} {s : Schedule}

theorem Paced.draw (h : Paced base longest n s) : ∃ wait rest, s.draw = (some wait, rest) ∧
    wait.nanos = min (base * 2 ^ n) longest ∧ Paced base longest (n + 1) rest := by
  obtain ⟨_, _, drawn, unfailing⟩ := h.unfailing.draw
  obtain ⟨next, attempts, twice, drawn'⟩ := h.unfailing.draw_eq
  obtain ⟨-, rfl⟩ := Prod.mk.inj (drawn.symm.trans drawn')
  refine ⟨_, _, drawn', h.next_eq, unfailing, h.base_eq, h.cap_eq, ?_⟩
  have power : base * 2 ^ (n + 1) = 2 * (base * 2 ^ n) := by
    rw [Nat.pow_succ, Nat.mul_comm (2 ^ n), Nat.mul_left_comm]
  have next_eq := h.next_eq
  have cap_eq := h.cap_eq
  simp only [twice, power]
  omega

theorem Paced.reset (h : Paced base longest n s) : Paced base longest 0 s.reset := by
  refine ⟨h.unfailing.reset, h.base_eq, h.cap_eq, ?_⟩
  have base_le := h.unfailing.base_le
  rw [h.base_eq, h.cap_eq] at base_le
  rw [Nat.pow_zero, Nat.mul_one, Nat.min_eq_left base_le]
  exact h.base_eq

theorem Paced.after (h : Paced base longest n s) (calls : List Call) :
    Paced base longest (calls.foldl Call.count n) (s.after calls) := by
  induction calls generalizing n s with
  | nil => exact h
  | cons call rest ih =>
      cases call with
      | draw =>
          obtain ⟨_, _, drawn, -, paced⟩ := h.draw
          have paced : Paced base longest (n + 1) (s.act .draw) := by rwa [act, drawn]
          exact ih paced
      | reset => exact ih h.reset

theorem paced_doubling {base cap : Span} (short : (base.max cap).double?.isSome) :
    Paced base.nanos (max base.nanos cap.nanos) 0 (doubling base cap) := by
  rw [Span.isSome_double?_iff, Span.nanos_max] at short
  refine ⟨unfailing_doubling short, rfl, ?_, ?_⟩
  · exact (Span.nanos_max _ _).trans (Nat.max_comm _ _)
  · rw [Nat.pow_zero, Nat.mul_one, Nat.min_eq_left (Nat.le_max_left _ _)]
    rfl

end Redial.Schedule

theorem Span.double_ofMillis_lt (ms : UInt64) :
    2 * (ofMillis ms).nanos < UInt64.size * 1000000000 := by
  have := ms.toNat_lt_size
  simp only [ofMillis]
  omega

theorem Node.unfailing_schedule (t : Timing) : (schedule t).Unfailing := by
  refine Redial.Schedule.unfailing_doubling ?_
  have base := Span.double_ofMillis_lt t.redialDelay
  have cap := Span.double_ofMillis_lt (max t.redialMaxDelay t.redialDelay)
  unfold Timing.redialSpan Timing.redialMaxSpan
  omega

end DpllWatch
