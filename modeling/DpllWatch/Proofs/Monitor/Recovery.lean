import DpllWatch.Proofs.Monitor.Episodes

/-! What the return of the source sets right. Its report is news whatever happened during the
outage, and one decision later nothing of the outage is left: neither its offset nor its countdown,
nor that the clock went out of spec, nor an excess. -/

namespace DpllWatch.Monitor

variable {m m' : Monitor} {w : Window}

/-- While the source is lost, GNSS is not known to be locked. -/
def Estranged (m : Monitor) : Prop := m.sourceLost = true → m.lastSeen.get .gnss ≠ .locked

theorem Estranged.hear (h : Estranged m) (source : Source) (state : SyncState) :
    Estranged (m.hear source state) := by
  unfold Monitor.hear
  dsimp only
  split
  · rename_i gnss
    subst gnss
    intro lost
    simpa [trackGnss] using lost
  · rename_i other
    intro lost
    rw [PerSource.get_set, if_neg (Ne.symm other)]
    exact h lost

theorem Prelude.estranged {input : Input} (h : Estranged m) (p : Prelude m input m') :
    Estranged m' := by
  cases p with
  | notify => exact h.hear _ _
  | sample r => cases r <;> exact h
  | ingest r => cases r <;> exact h
  | @finish _ outcome => cases outcome <;> exact h

theorem Estranged.decide (h : Estranged m) : Estranged m.decide.1 := by
  intro lost
  rw [decide_sourceLost] at lost
  rw [decide_lastSeen]
  exact h lost

theorem Estranged.step (h : Estranged m) (input : Input) : Estranged (m.step input).1 := by
  have step := step_transition m input
  generalize (m.step input).1 = m' at step ⊢
  cases step with
  | concluded outcome => cases outcome <;> exact h
  | decided p => exact (p.estranged h).decide
  | _ => exact h

theorem Reachable.estranged (h : Reachable m) : Estranged m := by
  induction h with
  | create created =>
      obtain ⟨_, _, rfl⟩ := eq_fresh_of_create created
      exact nofun
  | step input _ ih => exact ih.step input

theorem Verdict.eq_of_present (usable : m.fused.usable = true) (present : m.sourceLost = false)
    (v : m.Verdict true m') :
    m' = { m with episode := none, inSpec := true, state := .locked } := by
  cases v with
  | unusable unusable => simp [usable] at unusable
  | tracking => rfl
  | straying _ away => simp [present] at away
  | recovered => rfl
  | holding _ lost => simp [present] at lost
  | latched _ lost => simp [present] at lost
  | armed _ lost => simp [present] at lost
  | spent _ away => simp [present] at away
  | kept _ _ outside => nomatch outside

theorem decide_eq_of_present (usable : m.fused.usable = true) (present : m.sourceLost = false)
    (window : m.window? = some w) (inRange : w.contains m.offset = true) :
    m.decide.1 = { m with
      decisions := m.decisions + 1, episode := none, inSpec := true, state := .locked } := by
  have verdict := decide_verdict window
  rw [inRange] at verdict
  exact Verdict.eq_of_present (m := { m with decisions := m.decisions + 1 }) usable present verdict

theorem hear_eq_of_return (lost : m.sourceLost = true) :
    m.hear .gnss .locked = { m with
      lastSeen := m.lastSeen.set .gnss .locked, offset := m.phaseOffset, sourceLost := false,
      rangeExceeded := false } := by
  simp [hear, trackGnss, lost]

theorem notify_eq_of_return (active : m.monitoring = true) (lost : m.sourceLost = true)
    (news : m.lastSeen.get .gnss ≠ .locked) (usable : m.fused.usable = true)
    (window : m.window? = some w) (inRange : w.contains m.phaseOffset = true) :
    (m.notify .gnss .locked).1 = { m with
      lastSeen := m.lastSeen.set .gnss .locked, offset := m.phaseOffset, sourceLost := false,
      rangeExceeded := false, decisions := m.decisions + 1, episode := none, inSpec := true,
      state := .locked } := by
  have told := hear_eq_of_return lost
  have locked := decide_eq_of_present (m := m.hear .gnss .locked) (w := w)
    (by rw [told]; exact usable) (by rw [told]) (by rw [told]; exact window)
    (by rw [told]; exact inRange)
  unfold notify
  rw [if_neg (by simp [active]), if_neg news, locked, told]

/-- When GNSS comes back to a usable clock whose sampled offset is in range, one decision locks it
and clears away the outage. Whatever reaches the monitor afterwards, countdowns that began before
change nothing and offer nothing. -/
theorem recovers (reach : Reachable m) (active : m.monitoring = true) (lost : m.sourceLost = true)
    (usable : m.fused = .locked ∨ m.fused = .lockedHoldoverAcquired ∨ m.fused = .holdover)
    (window : m.window? = some w) (inRange : w.contains m.phaseOffset = true) :
    let back := (m.notify .gnss .locked).1
    back.decisions = m.decisions + 1 ∧ back.state = .locked ∧ back.inSpec = true ∧
      back.sourceLost = false ∧ back.rangeExceeded = false ∧ back.offset = back.phaseOffset ∧
      back.phaseOffset = m.phaseOffset ∧ back.episode = none ∧
      ∀ (later : List Move) (episode : Nat), episode < m.nextEpisode →
        ∀ (offset : Int64) (outcome : Countdown.Outcome),
          let now := (back.play later).1
          now.extrapolate episode offset = (now, false) ∧
            now.finish episode outcome = (now, []) := by
  have news := reach.estranged lost
  have usable : m.fused.usable = true := by
    rcases usable with h | h | h <;> rw [h] <;> rfl
  intro back
  have returned : back = _ := notify_eq_of_return active lost news usable window inRange
  have idle : back.episode = none := by rw [returned]
  have next : back.nextEpisode = m.nextEpisode := by rw [returned]
  refine ⟨by rw [returned], by rw [returned], by rw [returned], by rw [returned],
    by rw [returned], by rw [returned], by rw [returned], idle, ?_⟩
  intro later episode before offset outcome
  have past : Past back episode := ⟨next ▸ before, by simp [idle]⟩
  exact ⟨(past.play later).extrapolate offset, (past.play later).finish outcome⟩

def excess : List Input :=
  [.bind .standard, .resolved .sysfs, .activate, .sample ⟨some 3, some 3, some 40⟩,
    .notify .gnss .freeRun, .extrapolate 1 120, .finish 1 .rangeExceeded,
    .sample ⟨some 3, some 3, some 30⟩]

theorem recovers_from_excess :
    ∃ m, create (.standard 1 "ens1f0" [.gnss]) = .ok m ∧
      let spent := (m.run excess).1
      let back := (spent.notify .gnss .locked).1
      let now := (back.play [.call (.notify .gnss .holdover)]).1
      Reachable spent ∧ spent.monitoring = true ∧ spent.sourceLost = true ∧
      spent.rangeExceeded = true ∧ spent.offset = 120 ∧ spent.nextEpisode = 2 ∧
      spent.fused = .lockedHoldoverAcquired ∧ spent.window? = some .standard ∧
      Window.standard.contains spent.phaseOffset = true ∧
      back.decisions = spent.decisions + 1 ∧ back.state = .locked ∧ back.inSpec = true ∧
      back.sourceLost = false ∧ back.rangeExceeded = false ∧ back.offset = 30 ∧
      back.episode = none ∧ now.episode = some 2 ∧ now.finish 1 .expired = (now, []) := by
  have created : create (.standard 1 "ens1f0" [.gnss]) = .ok _ := rfl
  have reached := (Reachable.create created).run excess
  obtain ⟨once, published, inSpec, present, latch, offset, sampled, idle, inert⟩ :=
    recovers (w := .standard) reached rfl rfl (.inr (.inl rfl)) rfl rfl
  have late := (inert [.call (.notify .gnss .holdover)] 1 (Nat.lt_succ_self 1) 0 .expired).2
  exact ⟨_, created, reached, rfl, rfl, rfl, rfl, rfl, rfl, rfl, rfl, once, published, inSpec,
    present, latch, offset.trans sampled, idle, rfl, late⟩

end DpllWatch.Monitor
