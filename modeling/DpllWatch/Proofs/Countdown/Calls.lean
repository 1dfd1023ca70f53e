import DpllWatch.Proofs.Countdown
import Mathlib.Data.Nat.Find
import Mathlib.Order.Bounds.Basic

/-! What a countdown tells its target, for any timer, any range and any cancel request: the offsets
of its ticks up to the last one, and then, once, how it ended. -/

namespace DpllWatch.Countdown

variable {σ : Type} {c : Countdown} {owner : Owner σ} {inRange : Int64 → Bool}
  {cancelAfter : Option Nat} {episode elapsed last : Nat} {s : σ}

/-! ## One wake -/

theorem wake_of_cancelled (h : owner.cancelled s = true) :
    c.wake owner elapsed s = (s, some .cancelled) :=
  if_pos h

theorem wake_of_late (going : owner.cancelled s = false) (late : c.timer.toNat ≤ elapsed + 1) :
    c.wake owner elapsed s = (s, some .expired) := by
  unfold wake
  rw [going, if_neg Bool.false_ne_true, if_pos ((deadline_le_iff _).2 late)]

theorem wake_of_early (going : owner.cancelled s = false) (early : elapsed + 1 < c.timer.toNat) :
    c.wake owner elapsed s =
      ((owner.advance s (c.offsetAfter (.ofNat (elapsed + 1)))).1,
        if (owner.advance s (c.offsetAfter (.ofNat (elapsed + 1)))).2 then none
        else some .rangeExceeded) := by
  unfold wake
  rw [going, if_neg Bool.false_ne_true, if_neg (mt (deadline_le_iff _).1 (Nat.not_le_of_lt early))]

/-! ## The end -/

def runFor (c : Countdown) (owner : Owner σ) : (wakes elapsed : Nat) → σ → Option (σ × Outcome)
  | 0, _, _ => none
  | wakes + 1, elapsed, s =>
    match c.wake owner elapsed s with
    | (s, some outcome) => some (s, outcome)
    | (s, none) => runFor c owner wakes (elapsed + 1) s

theorem runFor_eq {wakes : Nat} (enough : c.timer.toNat ≤ elapsed + wakes) (wakes_pos : 0 < wakes) :
    c.runFor owner wakes elapsed s = some (c.runFrom owner elapsed s) := by
  induction wakes generalizing elapsed s with
  | zero => omega
  | succ wakes ih =>
      rw [runFor]
      cases woken : c.wake owner elapsed s with
      | mk s' answer =>
          cases answer with
          | some outcome => rw [runFrom_of_ended woken]
          | none =>
              have early : elapsed + 1 < c.timer.toNat := by
                have before := lt_deadline_of_wake woken
                rw [deadline, Nat.mul_comm] at before
                exact Nat.lt_of_mul_lt_mul_left before
              rw [runFrom_of_going woken]
              exact ih (by omega) (by omega)

/-! ## Every wake -/

def tickCalls (c : Countdown) (episode last : Nat) : List Call :=
  (List.range last).map fun i => .extrapolated episode (c.offsetAfter (.ofNat (i + 1)))

theorem tickCalls_succ (c : Countdown) (episode last : Nat) :
    c.tickCalls episode (last + 1) =
      c.tickCalls episode last ++ [.extrapolated episode (c.offsetAfter (.ofNat (last + 1)))] := by
  rw [tickCalls, List.range_succ, List.map_append]
  rfl

@[simp] theorem length_tickCalls (c : Countdown) (episode last : Nat) :
    (c.tickCalls episode last).length = last := by
  rw [tickCalls, List.length_map, List.length_range]

def Strays (c : Countdown) (inRange : Int64 → Bool) (tick : Nat) : Prop :=
  0 < tick ∧ inRange (c.offsetAfter (.ofNat tick)) = false

instance (c : Countdown) (inRange : Int64 → Bool) (tick : Nat) :
    Decidable (c.Strays inRange tick) :=
  inferInstanceAs (Decidable (_ ∧ _))

/-- Ticks after which nothing more is told: the one before the timer fires, those with an offset out
of range, and the one with the cancel request. -/
def stops (c : Countdown) (inRange : Int64 → Bool) (cancelAfter : Option Nat) : Set Nat :=
  {tick | tick = c.timer.toNat - 1 ∨ c.Strays inRange tick ∨ cancelAfter = some tick}

def endingAt (c : Countdown) (inRange : Int64 → Bool) (cancelAfter : Option Nat) (last : Nat) :
    Outcome :=
  if c.Strays inRange last then .rangeExceeded
  else if cancelAfter = some last then .cancelled
  else .expired

theorem endingAt_eq_rangeExceeded_iff :
    c.endingAt inRange cancelAfter last = .rangeExceeded ↔ c.Strays inRange last := by
  unfold endingAt
  split_ifs <;> simp [*]

theorem endingAt_eq_cancelled_iff :
    c.endingAt inRange cancelAfter last = .cancelled ↔
      ¬c.Strays inRange last ∧ cancelAfter = some last := by
  unfold endingAt
  split_ifs <;> simp [*]

theorem endingAt_eq_expired_iff :
    c.endingAt inRange cancelAfter last = .expired ↔
      ¬c.Strays inRange last ∧ cancelAfter ≠ some last := by
  unfold endingAt
  split_ifs <;> simp [*]

theorem exists_isLeast_stops (c : Countdown) (inRange : Int64 → Bool) (cancelAfter : Option Nat) :
    ∃ last, IsLeast (c.stops inRange cancelAfter) last := by
  classical
  have stop : ∃ tick, tick ∈ c.stops inRange cancelAfter := ⟨_, .inl rfl⟩
  exact ⟨Nat.find stop, Nat.find_spec stop, fun _ h => Nat.find_min' stop h⟩

section Least

variable (episode) (least : IsLeast (c.stops inRange cancelAfter) last)
include least

theorem cancelled_tickCalls (reached : elapsed ≤ last) :
    ((recorder inRange cancelAfter).owner episode).cancelled (c.tickCalls episode elapsed) =
      decide (cancelAfter = some elapsed) := by
  change cancelAfter.any (· ≤ (c.tickCalls episode elapsed).length) = _
  rw [length_tickCalls]
  cases cancelAfter with
  | none => rfl
  | some k =>
      have later : last ≤ k := least.2 (.inr (.inr rfl))
      have reach : k ≤ elapsed ↔ some k = some elapsed := by
        rw [Option.some.injEq]
        omega
      exact decide_eq_decide.2 reach

theorem runFrom_tickCalls_last (inside : ¬c.Strays inRange last) :
    c.runFrom ((recorder inRange cancelAfter).owner episode) last (c.tickCalls episode last) =
      (c.tickCalls episode last, c.endingAt inRange cancelAfter last) := by
  rw [endingAt, if_neg inside]
  have request := cancelled_tickCalls episode least (Nat.le_refl last)
  apply runFrom_of_ended
  by_cases cancelled : cancelAfter = some last
  · rw [if_pos cancelled]
    exact wake_of_cancelled (request.trans (decide_eq_true cancelled))
  · have timer : last = c.timer.toNat - 1 :=
      least.1.resolve_right (not_or.2 ⟨inside, cancelled⟩)
    rw [if_neg cancelled]
    exact wake_of_late (request.trans (decide_eq_false cancelled)) (by omega)

theorem wake_tickCalls (before : elapsed < last) :
    c.wake ((recorder inRange cancelAfter).owner episode) elapsed (c.tickCalls episode elapsed) =
      (c.tickCalls episode (elapsed + 1),
        if inRange (c.offsetAfter (.ofNat (elapsed + 1))) then none else some .rangeExceeded) := by
  have bound : last ≤ c.timer.toNat - 1 := least.2 (.inl rfl)
  have uncancelled : cancelAfter ≠ some elapsed := fun h =>
    Nat.not_lt_of_le (least.2 (.inr (.inr h))) before
  have going := cancelled_tickCalls episode least (Nat.le_of_lt before)
  rw [decide_eq_false uncancelled] at going
  rw [wake_of_early going (by omega), tickCalls_succ]
  rfl

theorem runFrom_tickCalls (before : elapsed < last) :
    c.runFrom ((recorder inRange cancelAfter).owner episode) elapsed (c.tickCalls episode elapsed) =
      (c.tickCalls episode last, c.endingAt inRange cancelAfter last) := by
  have woken := wake_tickCalls episode least before
  -- The induction is on the ticks that are left up to the last one.
  induction left : last - elapsed generalizing elapsed with
  | zero => omega
  | succ left ih =>
      by_cases inside : inRange (c.offsetAfter (.ofNat (elapsed + 1))) = true
      · rw [if_pos inside] at woken
        rw [runFrom_of_going woken]
        by_cases more : elapsed + 1 < last
        · exact ih more (wake_tickCalls episode least more) (by omega)
        · have arrived : elapsed + 1 = last := by omega
          subst arrived
          have settled : ¬c.Strays inRange (elapsed + 1) := fun h =>
            Bool.false_ne_true (h.2.symm.trans inside)
          exact runFrom_tickCalls_last episode least settled
      · have strays : c.Strays inRange (elapsed + 1) :=
          ⟨Nat.succ_pos _, Bool.eq_false_iff.2 inside⟩
        have arrived : last = elapsed + 1 :=
          Nat.le_antisymm (least.2 (.inr (.inl strays))) before
        rw [if_neg inside] at woken
        rw [runFrom_of_ended woken, arrived, endingAt, if_pos strays]

theorem run_recorder :
    c.run ((recorder inRange cancelAfter).owner episode) [] =
      (c.tickCalls episode last, c.endingAt inRange cancelAfter last) := by
  rcases Nat.eq_zero_or_pos last with rfl | some_tick
  · exact runFrom_tickCalls_last episode least (fun h => Nat.lt_irrefl 0 h.1)
  · exact runFrom_tickCalls episode least some_tick

end Least

/-- A countdown tells its target the offsets of the ticks before the timer fires, up to the first
that is out of range or the one with the cancel request, and once how it ended. An excess goes before
a cancel request, and a cancel request before the timer. Whoever its owner is, it wakes no more often
than its timer has ticks, or once. -/
theorem tells_ticks_then_ends (tick : Span) (tick_pos : 0 < tick.nanos) (seconds : UInt64)
    (offsetAfter : UInt64 → Int64) (inRange : Int64 → Bool) (cancelAfter : Option Nat)
    (episode : Nat) :
    let c : Countdown := ⟨tick, tick_pos, clampTimer seconds, offsetAfter⟩
    let timer := min seconds.toNat (UInt32.size - 1)
    ∃ last outcome,
      IsLeast {k | k = timer - 1 ∨ c.Strays inRange k ∨ cancelAfter = some k} last ∧
      c.rehearse inRange cancelAfter episode =
        ((List.range last).map (fun i => .extrapolated episode (offsetAfter (.ofNat (i + 1)))) ++
          [.finish episode outcome], outcome) ∧
      (outcome = .rangeExceeded ↔
        IsLeast {k | c.Strays inRange k} last ∧ last ≤ timer - 1 ∧
          ∀ k, cancelAfter = some k → last ≤ k) ∧
      (outcome = .cancelled ↔ ¬c.Strays inRange last ∧ cancelAfter = some last) ∧
      (outcome = .expired ↔ ¬c.Strays inRange last ∧ cancelAfter ≠ some last) ∧
      ∀ (σ : Type) (owner : Owner σ) (s : σ),
        c.runFor owner (max 1 timer) 0 s = some (c.run owner s) := by
  intro c timer
  have fires : c.timer.toNat = timer := toNat_clampTimer seconds
  obtain ⟨last, least⟩ := c.exists_isLeast_stops inRange cancelAfter
  have calls := run_recorder episode least
  rw [stops, fires] at least
  refine ⟨last, c.endingAt inRange cancelAfter last, least, ?_, ?_, endingAt_eq_cancelled_iff,
    endingAt_eq_expired_iff, ?_⟩
  · rw [rehearse, attend, calls]
    rfl
  · rw [endingAt_eq_rangeExceeded_iff]
    constructor
    · intro strays
      exact ⟨⟨strays, fun _ h => least.2 (.inr (.inl h))⟩, least.2 (.inl rfl),
        fun _ h => least.2 (.inr (.inr h))⟩
    · exact fun first => first.1.1
  · intro σ owner s
    exact runFor_eq (by omega) (by omega)

private def tenPerTick : Countdown := ⟨.ofMillis 1, by decide, clampTimer 5, (10 * ·.toInt64)⟩

theorem tells_ticks_then_ends_excess :
    0 < (Span.ofMillis 1).nanos ∧
      tenPerTick.rehearse (· ≤ 20) (some 3) 7 =
        ([.extrapolated 7 10, .extrapolated 7 20, .extrapolated 7 30, .finish 7 .rangeExceeded],
          .rangeExceeded) := by
  obtain ⟨last, outcome, least, calls, exceeds, -⟩ := tells_ticks_then_ends (.ofMillis 1)
    (by decide) 5 (10 * ·.toInt64) (· ≤ 20) (some 3) 7
  have inside : ∀ k < 3, ¬tenPerTick.Strays (· ≤ 20) k := by decide
  have third : last = 3 := by
    have bound : last ≤ 3 := least.2 (.inr (.inr rfl))
    rcases least.1 with timer | strays | request
    · exact absurd (timer ▸ bound) (by decide)
    · exact Nat.le_antisymm bound (Nat.le_of_not_lt fun early => inside last early strays)
    · exact (Option.some.inj request).symm
  subst third
  have stray : outcome = .rangeExceeded := by
    refine exceeds.2 ⟨⟨⟨by decide, by decide⟩, fun k h => least.2 (.inr (.inl h))⟩, by decide, ?_⟩
    exact fun k request => least.2 (.inr (.inr request))
  subst stray
  exact ⟨by decide, calls⟩

end DpllWatch.Countdown
