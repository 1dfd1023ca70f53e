import DpllWatch.Proofs.Monitor.Step

/-! What holds of a monitor whatever reaches it, in whatever order. `Coherent` survives every input
even before the decision that follows it, and a decision makes `Settled` of it. -/

namespace DpllWatch.Monitor

variable {m m' : Monitor}

/-- A clock that is out of spec, and one whose offsets no window can judge, run free; the owner of a
countdown holds over. -/
structure Coherent (m : Monitor) : Prop where
  owned : m.episode.isSome = true → m.state = .holdover
  outOfSpec : m.inSpec = false → m.state = .freeRun
  blind : m.window? = none → m.state = .freeRun

theorem Coherent.inSpec (h : Coherent m) (published : m.state ≠ .freeRun) : m.inSpec = true := by
  cases inSpec : m.inSpec with
  | true => rfl
  | false => exact absurd (h.outOfSpec inSpec) published

theorem Coherent.idle (h : Coherent m) (published : m.state ≠ .holdover) : m.episode = none := by
  cases owned : m.episode with
  | none => rfl
  | some _ => exact absurd (h.owned (by simp [owned])) published

structure Settled (m : Monitor) : Prop extends Coherent m where
  holdover : m.state = .holdover → m.fused.holdsOver = true
  locked : m.state = .locked → m.sourceLost = false ∧ m.fused.usable = true

theorem Coherent.conclude (h : Coherent m) (outcome : Countdown.Outcome) :
    Coherent (m.conclude outcome) := by
  cases outcome with
  | expired => exact ⟨nofun, fun _ => rfl, fun _ => rfl⟩
  | cancelled => exact ⟨nofun, nofun, h.blind⟩
  | rangeExceeded => exact ⟨nofun, h.outOfSpec, h.blind⟩

theorem Prelude.coherent {input : Input} (h : Coherent m) (p : Prelude m input m') :
    Coherent m' := by
  rcases p.frame with ⟨_, outcome, _, _, rfl⟩ | ⟨_, _, _, _, _, _, _, _, rfl⟩
  · exact h.conclude outcome
  · exact ⟨h.owned, h.outOfSpec, h.blind⟩

theorem Settled.of_freeRun (published : m.state = .freeRun) (idle : m.episode = none) :
    Settled m where
  owned := by simp [idle]
  outOfSpec := fun _ => published
  blind := fun _ => published
  holdover := by simp [published]
  locked := by simp [published]

theorem Settled.of_locked (published : m.state = .locked) (idle : m.episode = none)
    (inSpec : m.inSpec = true) (seen : m.window? ≠ none) (present : m.sourceLost = false)
    (usable : m.fused.usable = true) : Settled m where
  owned := by simp [idle]
  outOfSpec := by simp [inSpec]
  blind := fun blind => absurd blind seen
  holdover := by simp [published]
  locked := fun _ => ⟨present, usable⟩

theorem Verdict.settled {inRange : Bool} (h : Coherent m) (seen : m.window? ≠ none)
    (v : m.Verdict inRange m') : Settled m' := by
  cases v with
  | unusable => exact .of_freeRun rfl rfl
  | tracking locked present =>
      have usable : m.fused.usable = true := by rw [locked]; rfl
      exact .of_locked rfl rfl rfl seen present usable
  | straying => exact .of_freeRun rfl rfl
  | recovered hold present =>
      exact .of_locked rfl rfl rfl seen present (LockStatus.usable_of_holdsOver hold)
  | holding hold _ _ owned =>
      have published := h.owned owned
      exact ⟨h, fun _ => hold, by simp [published]⟩
  | latched _ _ _ idle => exact .of_freeRun rfl idle
  | armed hold _ inSpec =>
      have coherent : Coherent m.arm :=
        ⟨fun _ => rfl, by simp [arm, inSpec], fun blind => absurd blind seen⟩
      exact ⟨coherent, fun _ => hold, nofun⟩
  | spent => exact .of_freeRun rfl rfl
  | kept hold present => exact ⟨h, fun _ => hold, fun _ =>
      ⟨present, LockStatus.usable_of_holdsOver hold⟩⟩

theorem Coherent.decide (h : Coherent m) : Settled m.decide.1 := by
  have counted : Coherent { m with decisions := m.decisions + 1 } :=
    ⟨h.owned, h.outOfSpec, h.blind⟩
  refine decide_cases (fun blind => ?_) fun w m' window verdict => ?_
  · have published : m.state = .freeRun := h.blind blind
    exact ⟨counted, by simp [published], by simp [published]⟩
  · have seen : m.window? ≠ none := by simp [window]
    exact verdict.settled counted seen

theorem Transition.settled {input : Input} (h : Settled m) (t : Transition m input m') :
    Settled m' := by
  cases t with
  | unheard => exact h
  | resolved => exact ⟨⟨h.owned, h.outOfSpec, h.blind⟩, h.holdover, h.locked⟩
  | bound => exact ⟨⟨h.owned, h.outOfSpec, nofun⟩, h.holdover, h.locked⟩
  | activated => exact ⟨⟨h.owned, h.outOfSpec, h.blind⟩, h.holdover, h.locked⟩
  | ticked => exact ⟨⟨h.owned, h.outOfSpec, h.blind⟩, h.holdover, h.locked⟩
  | concluded outcome =>
      have coherent := h.conclude outcome
      cases outcome with
      | expired => exact .of_freeRun rfl rfl
      | cancelled => exact ⟨coherent, h.holdover, h.locked⟩
      | rangeExceeded => exact ⟨coherent, h.holdover, h.locked⟩
  | stopped => exact ⟨⟨h.owned, h.outOfSpec, h.blind⟩, h.holdover, h.locked⟩
  | tornDown =>
      refine ⟨⟨nofun, fun spent => h.outOfSpec ?_, h.blind⟩, h.holdover, h.locked⟩
      simp only [Bool.or_eq_false_iff] at spent
      exact spent.2
  | decided p => exact (p.coherent h.toCoherent).decide

theorem Reachable.settled (h : Reachable m) : Settled m := by
  induction h with
  | create created =>
      obtain ⟨_, _, rfl⟩ := eq_fresh_of_create created
      exact .of_freeRun rfl rfl
  | step input _ ih => exact (step_transition _ input).settled ih

/-- The four promises of the published state: about an owned countdown, about holdover, about a
clock out of spec and about a locked clock. -/
structure Safe (m : Monitor) : Prop where
  owned : m.episode.isSome = true →
    m.state = .holdover ∧ m.inSpec = true ∧
      (m.fused = .lockedHoldoverAcquired ∨ m.fused = .holdover)
  holdover : m.state = .holdover →
    m.inSpec = true ∧ (m.fused = .lockedHoldoverAcquired ∨ m.fused = .holdover)
  outOfSpec : m.inSpec = false → m.state = .freeRun ∧ m.episode = none
  locked : m.state = .locked →
    m.sourceLost = false ∧ m.inSpec = true ∧ m.episode = none ∧
      m.fused ≠ .unknown ∧ m.fused ≠ .invalid ∧ m.fused ≠ .freeRun

theorem Settled.safe (h : Settled m) : Safe m := by
  have holds (published : m.state = .holdover) :
      m.inSpec = true ∧ (m.fused = .lockedHoldoverAcquired ∨ m.fused = .holdover) :=
    ⟨h.inSpec (by simp [published]), LockStatus.holdsOver_iff.1 (h.holdover published)⟩
  constructor
  · intro owned
    exact ⟨h.owned owned, holds (h.owned owned)⟩
  · exact holds
  · intro spent
    have published := h.outOfSpec spent
    exact ⟨published, h.idle (by simp [published])⟩
  · intro published
    obtain ⟨present, usable⟩ := h.locked published
    have inSpec := h.inSpec (by simp [published])
    have idle := h.idle (by simp [published])
    exact ⟨present, inSpec, idle, LockStatus.usable_iff.1 usable⟩

/-- Subscribing to sources is no input here: it reaches the lists of a node and no monitor. -/
theorem safe_of_reachable (h : Reachable m) : Safe m := h.settled.safe

theorem safe_of_reachable_in_holdover :
    ∃ m, create (.standard 1 "ens1f0" [.gnss]) = .ok m ∧
      let held := (m.run [.bind .standard, .resolved .sysfs, .activate,
        .sample ⟨some 3, some 3, some 40⟩, .notify .gnss .freeRun]).1
      Reachable held ∧ held.episode = some 1 ∧ Safe held := by
  have created : create (.standard 1 "ens1f0" [.gnss]) = .ok _ := rfl
  have held := (Reachable.create created).run [.bind .standard, .resolved .sysfs, .activate,
    .sample ⟨some 3, some 3, some 40⟩, .notify .gnss .freeRun]
  exact ⟨_, created, held, rfl, safe_of_reachable held⟩

end DpllWatch.Monitor
