import DpllWatch.Proofs.Monitor.Step

/-! Which offset decisions look at. While the source is there it is meant to be the sampled one. It
is, up to the first tick that a countdown delivers although the source has come back: then the
published state can even turn to locked while the sampled offset is out of range. -/

namespace DpllWatch.Monitor

variable {m m' : Monitor}

/-- Decisions look at the sampled offset while the source is there. -/
def InStep (m : Monitor) : Prop := m.sourceLost = false → m.offset = m.phaseOffset

/-- A tick of the owned countdown that finds the source there and overwrites the sampled offset. -/
def Turn.strays (t : Turn) : Bool :=
  match t.input with
  | .extrapolate episode offset =>
    t.before.owns episode && !t.before.sourceLost && offset != t.before.phaseOffset
  | _ => false

theorem Refresh.inStep (h : InStep m) (r : Refresh m m') : InStep m' := by
  cases r with
  | statuses => exact h
  | measured =>
      intro present
      have present : m.sourceLost = false := present
      simp [present]

theorem InStep.hear (h : InStep m) (source : Source) (state : SyncState) :
    InStep (m.hear source state) := by
  unfold Monitor.hear
  dsimp only
  split
  · intro back
    have back : (state != .locked) = false := back
    cases hs : m.sourceLost with
    | true => simp [trackGnss, back]
    | false => simpa [trackGnss, hs] using h hs
  · exact h

theorem Prelude.inStep {input : Input} (h : InStep m) (p : Prelude m input m') : InStep m' := by
  cases p with
  | notify => exact h.hear _ _
  | sample r => exact r.inStep h
  | ingest r => exact r.inStep h
  | @finish _ outcome => cases outcome <;> exact h

theorem InStep.decide (h : InStep m) : InStep m.decide.1 := by
  intro present
  rw [decide_sourceLost] at present
  rw [decide_offset, decide_phaseOffset]
  exact h present

theorem Turn.inStep_iff {t : Turn} (h : InStep t.before) :
    InStep t.after ↔ t.strays = false := by
  obtain ⟨m, input⟩ := t
  have step := step_transition m input
  unfold Turn.after Turn.strays
  dsimp only at h ⊢
  generalize (m.step input).1 = m' at step ⊢
  cases step with
  | unheard unheard =>
      refine iff_of_true h ?_
      cases input <;> simp_all [hears]
  | resolved => exact iff_of_true h rfl
  | bound => exact iff_of_true h rfl
  | activated => exact iff_of_true h rfl
  | @ticked episode offset owned =>
      cases present : m.sourceLost with
      | true => simp [InStep]
      | false => simp [InStep, owns_iff.2 owned]
  | concluded outcome =>
      refine iff_of_true ?_ rfl
      cases outcome <;> exact h
  | stopped => exact iff_of_true h rfl
  | tornDown => exact iff_of_true h rfl
  | decided p =>
      refine iff_of_true (p.inStep h).decide ?_
      cases p <;> rfl

theorem Verdict.of_locks {inRange : Bool} (before : m.state ≠ .locked) (after : m'.state = .locked)
    (v : m.Verdict inRange m') : m.sourceLost = false ∧ inRange = true := by
  cases v with
  | unusable => nomatch after
  | tracking _ present inRange => exact ⟨present, inRange⟩
  | straying => nomatch after
  | recovered _ present inRange => exact ⟨present, inRange⟩
  | holding => exact absurd after before
  | latched => nomatch after
  | armed => nomatch after
  | spent => nomatch after
  | kept => exact absurd after before

theorem contains_of_decide_locks (before : m.state ≠ .locked)
    (after : m.decide.1.state = .locked) :
    m.sourceLost = false ∧ ∃ w, m.window? = some w ∧ w.contains m.offset = true := by
  cases window : m.window? with
  | none =>
      rw [decide_eq_of_no_window window] at after
      exact absurd after before
  | some w =>
      obtain ⟨present, inRange⟩ := Verdict.of_locks (m := { m with decisions := m.decisions + 1 })
        before after (decide_verdict window)
      exact ⟨present, w, rfl, inRange⟩

theorem Turn.contains_of_locks {t : Turn} (before : t.before.state ≠ .locked)
    (after : t.after.state = .locked) :
    t.after.sourceLost = false ∧
      ∃ w, t.after.window? = some w ∧ w.contains t.after.offset = true := by
  obtain ⟨m, input⟩ := t
  have step := step_transition m input
  unfold Turn.after at after ⊢
  dsimp only at before after ⊢
  generalize (m.step input).1 = m' at step after ⊢
  cases step with
  | concluded outcome =>
      cases outcome with
      | expired => nomatch after
      | cancelled => exact absurd after before
      | rangeExceeded => exact absurd after before
  | @decided _ m₁ p =>
      have unlocked : m₁.state ≠ .locked := by
        rcases p.state with same | free
        · rwa [same]
        · rw [free]
          nofun
      rw [decide_sourceLost, decide_window?, decide_offset]
      exact contains_of_decide_locks unlocked after
  | _ => exact absurd after before

theorem inStep_history (h : InStep m) (inputs : List Input) :
    (∀ t ∈ m.history inputs, t.after.stopping = false → InStep t.after) ↔
      ∀ t ∈ m.history inputs, t.after.stopping = false → t.strays = false := by
  induction inputs generalizing m with
  | nil => simp [history]
  | cons input rest ih =>
      have turn := Turn.inStep_iff (t := ⟨m, input⟩) h
      simp only [history, List.forall_mem_cons]
      cases stopping : (m.step input).1.stopping with
      | true =>
          -- Nothing is asked of a turn after a stop, and none comes before it again.
          have later : ∀ t ∈ history (m.step input).1 rest, t.after.stopping ≠ false := by
            intro t ht
            rw [stopping_of_mem_history stopping ht]
            nofun
          simp only [Turn.after] at later ⊢
          simp +contextual [stopping, later]
      | false =>
          have first : Turn.after ⟨m, input⟩ = (m.step input).1 := rfl
          simp only [first, stopping, forall_const] at turn ⊢
          rw [turn]
          exact and_congr_right fun steady => ih (turn.2 steady)

/-- Up to a stop, decisions look at the sampled offset whenever the source is there, and lock only
while it is in range, exactly if no countdown's tick strays. -/
theorem inStep_iff_no_stray {settings : Settings} (created : create settings = .ok m)
    (inputs : List Input) :
    ((∀ t ∈ m.history inputs, t.after.stopping = false → InStep t.after) ∧
      ∀ t ∈ m.history inputs, t.after.stopping = false →
        t.before.state ≠ .locked → t.after.state = .locked →
          ∃ w, t.after.window? = some w ∧ w.contains t.after.phaseOffset = true) ↔
      ∀ t ∈ m.history inputs, t.after.stopping = false → t.strays = false := by
  have new : InStep m := by
    obtain ⟨settings, drift, rfl⟩ := eq_fresh_of_create created
    exact fun _ => rfl
  have steady := inStep_history new inputs
  constructor
  · intro h
    exact steady.1 h.1
  · intro h
    have together := steady.2 h
    refine ⟨together, ?_⟩
    intro t ht running before after
    obtain ⟨present, w, hw, inRange⟩ := Turn.contains_of_locks before after
    rw [together t ht running present] at inRange
    exact ⟨w, hw, inRange⟩

def recovery : List Input :=
  [.bind .standard, .resolved .sysfs, .activate, .sample ⟨some 3, some 3, some 40⟩,
    .notify .gnss .freeRun, .extrapolate 1 20, .sample ⟨some 3, some 3, some 30⟩,
    .notify .gnss .locked, .extrapolate 1 40]

theorem inStep_iff_no_stray_recovery :
    ∃ m, create (.standard 1 "ens1f0" [.gnss]) = .ok m ∧
      (∀ t ∈ m.history recovery, t.after.stopping = false → t.strays = false) ∧
      (∀ t ∈ m.history recovery, t.after.stopping = false → InStep t.after) ∧
      ∀ t ∈ m.history recovery, t.after.stopping = false →
        t.before.state ≠ .locked → t.after.state = .locked →
          ∃ w, t.after.window? = some w ∧ w.contains t.after.phaseOffset = true := by
  obtain ⟨m, created, all⟩ : ∃ m, create (.standard 1 "ens1f0" [.gnss]) = .ok m ∧
      (m.history recovery).all (!·.strays) = true := ⟨_, rfl, rfl⟩
  have steady : ∀ t ∈ m.history recovery, t.after.stopping = false → t.strays = false := by
    intro t ht _
    simpa using List.all_eq_true.1 all t ht
  exact ⟨m, created, steady, (inStep_iff_no_stray created recovery).2 steady⟩

/-- The source comes back out of range, so the state is kept and the countdown goes on. Its next
tick takes the place of the sampled offset, and the next decision locks. -/
theorem locks_on_extrapolated_offset :
    ∃ m, create (.standard 1 "ens1f0" [.gnss, .ptp4l]) = .ok m ∧
      let before := (m.run [.bind .standard, .resolved .sysfs, .activate,
        .sample ⟨some 3, some 3, some 40⟩, .notify .gnss .freeRun,
        .sample ⟨some 3, some 3, some 150⟩, .notify .gnss .locked, .extrapolate 1 20]).1
      let after := (before.notify .ptp4l .locked).1
      Reachable before ∧ before.stopping = false ∧ before.sourceLost = false ∧
      before.offset = 20 ∧ before.phaseOffset = 150 ∧ before.state = .holdover ∧
      after.state = .locked ∧ after.phaseOffset = 150 ∧ after.window? = some .standard ∧
      Window.standard.contains 150 = false := by
  have created : create (.standard 1 "ens1f0" [.gnss, .ptp4l]) = .ok _ := rfl
  have reached := (Reachable.create created).run [.bind .standard, .resolved .sysfs, .activate,
    .sample ⟨some 3, some 3, some 40⟩, .notify .gnss .freeRun,
    .sample ⟨some 3, some 3, some 150⟩, .notify .gnss .locked, .extrapolate 1 20]
  exact ⟨_, created, reached, rfl, rfl, rfl, rfl, rfl, rfl, rfl, rfl, rfl⟩

end DpllWatch.Monitor
