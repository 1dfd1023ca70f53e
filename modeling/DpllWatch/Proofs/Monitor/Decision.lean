import DpllWatch.Monitor

/-! How a decision can turn out. `Verdict` lists every outcome with what leads to it, and whatever
is said of decisions elsewhere is read off that list. -/

namespace DpllWatch

namespace LockStatus

def holdsOver : LockStatus → Bool
  | lockedHoldoverAcquired | holdover => true
  | unknown | invalid | freeRun | locked => false

def usable : LockStatus → Bool
  | locked | lockedHoldoverAcquired | holdover => true
  | unknown | invalid | freeRun => false

theorem holdsOver_iff {s : LockStatus} :
    s.holdsOver = true ↔ s = .lockedHoldoverAcquired ∨ s = .holdover := by
  cases s <;> simp [holdsOver]

theorem usable_iff {s : LockStatus} :
    s.usable = true ↔ s ≠ .unknown ∧ s ≠ .invalid ∧ s ≠ .freeRun := by
  cases s <;> simp [usable]

theorem usable_of_holdsOver {s : LockStatus} (h : s.holdsOver = true) : s.usable = true := by
  cases s <;> simp_all [holdsOver, usable]

end LockStatus

namespace Monitor

variable {m : Monitor}

theorem release_eq (m : Monitor) :
    m.release = { m with episode := none, inSpec := m.episode.isSome || m.inSpec } := by
  unfold release
  cases m with
  | mk settings drift backend phase frequency phaseOffset offset state inSpec sourceLost
      rangeExceeded lastSeen episode =>
    cases episode <;> rfl

/-- The ways in which a decision can turn out, given whether the offset is in range. -/
inductive Verdict (m : Monitor) (inRange : Bool) : Monitor → Prop where
  | unusable : m.fused.usable = false →
      Verdict m inRange { m with episode := none, inSpec := true, state := .freeRun }
  | tracking : m.fused = .locked → m.sourceLost = false → inRange = true →
      Verdict m inRange { m with episode := none, inSpec := true, state := .locked }
  | straying : m.fused = .locked → (m.sourceLost = true ∨ inRange = false) →
      Verdict m inRange { m with episode := none, inSpec := true, state := .freeRun }
  | recovered : m.fused.holdsOver = true → m.sourceLost = false → inRange = true →
      Verdict m inRange { m with episode := none, inSpec := true, state := .locked }
  | holding : m.fused.holdsOver = true → m.sourceLost = true → m.inSpec = true →
      m.episode.isSome = true → Verdict m inRange m
  | latched : m.fused.holdsOver = true → m.sourceLost = true → m.inSpec = true →
      m.episode = none → m.rangeExceeded = true →
      Verdict m inRange { m with state := .freeRun }
  | armed : m.fused.holdsOver = true → m.sourceLost = true → m.inSpec = true →
      m.episode = none → m.rangeExceeded = false → Verdict m inRange m.arm
  | spent : m.fused.holdsOver = true → (m.sourceLost = true ∨ inRange = false) →
      m.inSpec = false →
      Verdict m inRange { m with episode := none, inSpec := m.episode.isSome, state := .freeRun }
  | kept : m.fused.holdsOver = true → m.sourceLost = false → inRange = false →
      m.inSpec = true → Verdict m inRange m

theorem settle_of_unusable (unusable : m.fused.usable = false) (inRange : Bool) :
    m.settle inRange = { m with episode := none, inSpec := true, state := .freeRun } := by
  unfold settle
  cases hf : m.fused with
  | unknown | invalid | freeRun => simp [release_eq]
  | locked | lockedHoldoverAcquired | holdover => simp [hf, LockStatus.usable] at unusable

theorem settle_of_locked (locked : m.fused = .locked) (inRange : Bool) :
    m.settle inRange = { m with
      episode := none, inSpec := true,
      state := if !m.sourceLost && inRange then .locked else .freeRun } := by
  simp [settle, locked, release_eq]

theorem settle_of_holdsOver (hold : m.fused.holdsOver = true) (inRange : Bool) :
    m.settle inRange =
      if !m.sourceLost && inRange then { m.release with inSpec := true, state := .locked }
      else if m.sourceLost && m.inSpec then
        if m.episode.isSome then m
        else if m.rangeExceeded then { m with state := .freeRun }
        else m.arm
      else if !m.inSpec then { m.release with state := .freeRun }
      else m := by
  unfold settle
  cases hf : m.fused <;> simp_all [LockStatus.holdsOver]

private theorem verdict_of_holdsOver (hold : m.fused.holdsOver = true) (inRange : Bool) :
    m.Verdict inRange (m.settle inRange) := by
  rw [settle_of_holdsOver hold]
  by_cases there : m.sourceLost = false ∧ inRange = true
  · rw [if_pos (by simp [there]), release_eq]
    exact .recovered hold there.1 there.2
  rw [if_neg (by simpa using there)]
  have away : m.sourceLost = true ∨ inRange = false := by
    cases hs : m.sourceLost <;> simp_all
  by_cases inSpec : m.inSpec = true
  · by_cases lost : m.sourceLost = true
    · rw [if_pos (by simp [lost, inSpec])]
      by_cases owned : m.episode.isSome = true
      · rw [if_pos owned]
        exact .holding hold lost inSpec owned
      have idle : m.episode = none := by simpa using owned
      rw [if_neg owned]
      by_cases latch : m.rangeExceeded = true
      · rw [if_pos latch]
        exact .latched hold lost inSpec idle latch
      · rw [if_neg latch]
        exact .armed hold lost inSpec idle (by simpa using latch)
    · rw [if_neg (by simp [lost]), if_neg (by simp [inSpec])]
      exact .kept hold (by simpa using lost) (away.resolve_left lost) inSpec
  · have spent : m.inSpec = false := by simpa using inSpec
    rw [if_neg (by simp [spent]), if_pos (by simp [spent]), release_eq, spent, Bool.or_false]
    exact .spent hold away spent

private theorem verdict_of_locked (hf : m.fused = .locked) (inRange : Bool) :
    m.Verdict inRange (m.settle inRange) := by
  rw [settle_of_locked hf]
  split
  · rename_i h
    rw [Bool.and_eq_true, Bool.not_eq_true'] at h
    exact .tracking hf h.1 h.2
  · rename_i h
    refine .straying hf ?_
    cases hs : m.sourceLost <;> simp_all

theorem settle_verdict (m : Monitor) (inRange : Bool) : m.Verdict inRange (m.settle inRange) := by
  cases hf : m.fused with
  | unknown | invalid | freeRun =>
      have unusable : m.fused.usable = false := by rw [hf]; rfl
      rw [settle_of_unusable unusable]
      exact .unusable unusable
  | locked => exact verdict_of_locked hf inRange
  | lockedHoldoverAcquired | holdover => exact verdict_of_holdsOver (by rw [hf]; rfl) inRange

/-! A decision changes nothing but its count, the episodes, the published state and the note whether
the clock is in spec. -/

theorem Verdict.frame {inRange : Bool} {m' : Monitor} (h : m.Verdict inRange m') :
    ∃ episode nextEpisode state inSpec, m' = { m with
      episode := episode, nextEpisode := nextEpisode, state := state, inSpec := inSpec } := by
  cases h <;> exact ⟨_, _, _, _, rfl⟩

theorem window?_eq_none_iff :
    m.window? = none ↔ m.profile = none ∧ m.settings.maxInSpecOffset = 9223372036854775808 := by
  unfold window?
  cases m.profile with
  | none => simp [Settings.window?, Window.around?_eq_none_iff]
  | some p => simp

theorem decide_eq_of_window {w : Window} (h : m.window? = some w) :
    m.decide.1 =
      ({ m with decisions := m.decisions + 1 } : Monitor).settle (w.contains m.offset) := by
  unfold decide
  have h' : ({ m with decisions := m.decisions + 1 } : Monitor).window? = some w := h
  simp only [h']

theorem decide_eq_of_no_window (h : m.window? = none) :
    m.decide = ({ m with decisions := m.decisions + 1 }, []) := by
  unfold decide
  have h' : ({ m with decisions := m.decisions + 1 } : Monitor).window? = none := h
  simp only [h']

theorem decide_verdict {w : Window} (h : m.window? = some w) :
    ({ m with decisions := m.decisions + 1 } : Monitor).Verdict (w.contains m.offset)
      m.decide.1 := by
  rw [decide_eq_of_window h]
  exact settle_verdict _ _

@[elab_as_elim]
theorem decide_cases {P : Monitor → Prop}
    (blind : m.window? = none → P { m with decisions := m.decisions + 1 })
    (judged : ∀ w m', m.window? = some w →
      ({ m with decisions := m.decisions + 1 } : Monitor).Verdict (w.contains m.offset) m' →
      P m') : P m.decide.1 := by
  cases window : m.window? with
  | none =>
      rw [decide_eq_of_no_window window]
      exact blind window
  | some w => exact judged w _ window (decide_verdict window)

theorem decide_frame (m : Monitor) :
    ∃ episode nextEpisode state inSpec, m.decide.1 = { m with
      decisions := m.decisions + 1, episode := episode, nextEpisode := nextEpisode,
      state := state, inSpec := inSpec } := by
  refine decide_cases (fun _ => ⟨_, _, _, _, rfl⟩) fun w m' _ verdict => ?_
  obtain ⟨episode, nextEpisode, state, inSpec, h⟩ := verdict.frame
  exact ⟨episode, nextEpisode, state, inSpec, h⟩

@[simp] theorem decide_fused (m : Monitor) : m.decide.1.fused = m.fused := by
  obtain ⟨_, _, _, _, h⟩ := m.decide_frame
  rw [h]
  rfl

@[simp] theorem decide_window? (m : Monitor) : m.decide.1.window? = m.window? := by
  obtain ⟨_, _, _, _, h⟩ := m.decide_frame
  rw [h]
  rfl

@[simp] theorem decide_offset (m : Monitor) : m.decide.1.offset = m.offset := by
  obtain ⟨_, _, _, _, h⟩ := m.decide_frame
  rw [h]

@[simp] theorem decide_phaseOffset (m : Monitor) : m.decide.1.phaseOffset = m.phaseOffset := by
  obtain ⟨_, _, _, _, h⟩ := m.decide_frame
  rw [h]

@[simp] theorem decide_sourceLost (m : Monitor) : m.decide.1.sourceLost = m.sourceLost := by
  obtain ⟨_, _, _, _, h⟩ := m.decide_frame
  rw [h]

@[simp] theorem decide_stopping (m : Monitor) : m.decide.1.stopping = m.stopping := by
  obtain ⟨_, _, _, _, h⟩ := m.decide_frame
  rw [h]

@[simp] theorem decide_lastSeen (m : Monitor) : m.decide.1.lastSeen = m.lastSeen := by
  obtain ⟨_, _, _, _, h⟩ := m.decide_frame
  rw [h]

@[simp] theorem decide_rangeExceeded (m : Monitor) :
    m.decide.1.rangeExceeded = m.rangeExceeded := by
  obtain ⟨_, _, _, _, h⟩ := m.decide_frame
  rw [h]

@[simp] theorem decide_tornDown (m : Monitor) : m.decide.1.tornDown = m.tornDown := by
  obtain ⟨_, _, _, _, h⟩ := m.decide_frame
  rw [h]

@[simp] theorem decide_profile (m : Monitor) : m.decide.1.profile = m.profile := by
  obtain ⟨_, _, _, _, h⟩ := m.decide_frame
  rw [h]

@[simp] theorem decide_decisions (m : Monitor) : m.decide.1.decisions = m.decisions + 1 := by
  obtain ⟨_, _, _, _, h⟩ := m.decide_frame
  rw [h]

theorem decide_offers (m : Monitor) :
    m.decide.2 = if m.stopping then [] else (m.profile.map m.decide.1.report).toList := by
  cases window : m.window? with
  | none =>
      have unbound : m.profile = none := by
        cases bound : m.profile with
        | none => rfl
        | some p => simp [window?, bound] at window
      rw [decide_eq_of_no_window window]
      simp [unbound]
  | some w =>
      have judged : ({ m with decisions := m.decisions + 1 } : Monitor).window? = some w := window
      have offered : m.decide.2 = m.decide.1.offers := by
        unfold decide
        simp only [judged]
      rw [offered, offers, decide_stopping, decide_profile]

end Monitor

end DpllWatch
