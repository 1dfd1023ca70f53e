import DpllWatch.Countdown

/-! Where a countdown ends that nobody cancels, whatever happens between its ticks. -/

namespace DpllWatch.Countdown

variable {σ : Type} {c : Countdown} {inRange : Int64 → Bool}

theorem toNat_clampTimer (seconds : UInt64) :
    (clampTimer seconds).toNat = min seconds.toNat (UInt32.size - 1) := by
  unfold clampTimer
  split
  · rename_i short
    rw [UInt64.toNat_toUInt32, Nat.mod_eq_of_lt short]
    omega
  · rename_i long
    have : (UInt32.ofNat (UInt32.size - 1)).toNat = UInt32.size - 1 := rfl
    omega

/-- The tick at which a countdown ends: the first one with an offset out of range, or the one at
which the timer fires if that comes no later. -/
def endTick (c : Countdown) (inRange : Int64 → Bool) : Nat :=
  ((List.range c.timer.toNat).find? fun tick =>
    0 < tick && !inRange (c.offsetAfter (.ofNat tick))).getD c.timer.toNat

def endOutcome (c : Countdown) (inRange : Int64 → Bool) : Outcome :=
  if c.endTick inRange = c.timer.toNat then .expired else .rangeExceeded

theorem endTick_cases (c : Countdown) (inRange : Int64 → Bool) :
    c.endTick inRange = c.timer.toNat ∨
      c.endTick inRange < c.timer.toNat ∧ 0 < c.endTick inRange ∧
        inRange (c.offsetAfter (.ofNat (c.endTick inRange))) = false := by
  unfold endTick
  cases found : (List.range c.timer.toNat).find? _ with
  | none => exact .inl rfl
  | some tick =>
      obtain ⟨strays, early, -⟩ := List.find?_range_eq_some.1 found
      rw [Bool.and_eq_true, decide_eq_true_eq, Bool.not_eq_true'] at strays
      exact .inr ⟨List.mem_range.1 early, strays⟩

theorem endTick_le (c : Countdown) (inRange : Int64 → Bool) :
    c.endTick inRange ≤ c.timer.toNat := by
  rcases c.endTick_cases inRange with timer | ⟨early, -⟩ <;> omega

theorem inRange_of_lt_endTick {tick : Nat} (pos : 0 < tick) (early : tick < c.endTick inRange) :
    inRange (c.offsetAfter (.ofNat tick)) = true := by
  have stays : tick = 0 ∨ inRange (c.offsetAfter (.ofNat tick)) = true := by
    unfold endTick at early
    cases found : (List.range c.timer.toNat).find? _ with
    | none =>
        rw [found] at early
        simpa using List.find?_range_eq_none.1 found tick early
    | some first =>
        rw [found] at early
        simpa using (List.find?_range_eq_some.1 found).2.2 tick early
  exact stays.resolve_left (Nat.ne_of_gt pos)

theorem deadline_le_iff (tick : Nat) :
    c.deadline ≤ min (tick * c.tick.nanos) c.deadline ↔ c.timer.toNat ≤ tick := by
  have mono : c.deadline ≤ tick * c.tick.nanos ↔ c.timer.toNat ≤ tick := by
    rw [deadline, Nat.mul_comm tick]
    exact Nat.mul_le_mul_left_iff c.tick_pos
  omega

theorem wake_outcome {owner : Owner σ} {elapsed : Nat} {s : σ}
    (going : owner.cancelled s = false)
    (honest : ∀ offset, (owner.advance s offset).2 = inRange offset)
    (early : elapsed < max 1 (c.endTick inRange)) :
    (c.wake owner elapsed s).2 =
      if elapsed + 1 < max 1 (c.endTick inRange) then none else some (c.endOutcome inRange) := by
  have last := c.endTick_cases inRange
  have bound := c.endTick_le inRange
  unfold wake
  rw [going, if_neg Bool.false_ne_true]
  by_cases timer : c.timer.toNat ≤ elapsed + 1
  · have ended : ¬elapsed + 1 < max 1 (c.endTick inRange) := by omega
    have expired : c.endTick inRange = c.timer.toNat := by omega
    rw [if_pos ((deadline_le_iff _).2 timer), if_neg ended, endOutcome, if_pos expired]
  rw [if_neg (mt (deadline_le_iff _).1 timer)]
  simp only [honest]
  by_cases goes : elapsed + 1 < max 1 (c.endTick inRange)
  · have inside : inRange (c.offsetAfter (.ofNat (elapsed + 1))) = true :=
      inRange_of_lt_endTick (by omega) (by omega)
    rw [if_pos goes, if_pos inside]
  · have unexpired : c.endTick inRange ≠ c.timer.toNat := by omega
    obtain ⟨-, pos, strays⟩ := last.resolve_left unexpired
    rw [show c.endTick inRange = elapsed + 1 by omega] at strays
    rw [if_neg goes, strays, endOutcome, if_neg unexpired]
    rfl

theorem wake_owner (c : Countdown) (owner : Owner σ) (elapsed : Nat) (s : σ) :
    (c.wake owner elapsed s).1 = s ∨
      ∃ offset, (c.wake owner elapsed s).1 = (owner.advance s offset).1 := by
  unfold wake
  split
  · exact .inl rfl
  split
  · exact .inl rfl
  · exact .inr ⟨_, rfl⟩

theorem runFrom_of_ended {owner : Owner σ} {elapsed : Nat} {s s' : σ} {outcome : Outcome}
    (h : c.wake owner elapsed s = (s', some outcome)) :
    c.runFrom owner elapsed s = (s', outcome) := by
  rw [runFrom]
  split <;> simp_all

theorem runFrom_of_going {owner : Owner σ} {elapsed : Nat} {s s' : σ}
    (h : c.wake owner elapsed s = (s', none)) :
    c.runFrom owner elapsed s = c.runFrom owner (elapsed + 1) s' := by
  rw [runFrom]
  split <;> simp_all

end DpllWatch.Countdown
