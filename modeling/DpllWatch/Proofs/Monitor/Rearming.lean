import DpllWatch.Proofs.Monitor.Course
import DpllWatch.Proofs.Monitor.Safety

/-! Whether a locked clock holds over when its source goes. It does unless an excess is remembered,
which is meant to be forgotten once the source comes back. But if the source comes back out of
range, the countdown goes on, and an excess that it reports then is still remembered when the
clock has locked again and loses its source the next time. -/

namespace DpllWatch.Monitor

variable {m : Monitor} {t : Turn} {turns : List Turn}

def Turn.exceeds (t : Turn) : Bool :=
  match t.input with
  | .finish episode outcome => t.before.owns episode && outcome == .rangeExceeded
  | _ => false

def Turn.returns (t : Turn) : Bool :=
  match t.input with
  | .notify source state => source == .gnss && state == .locked && t.before.hears t.input
  | _ => false

theorem Turn.not_returns_of_exceeds (h : t.exceeds = true) : t.returns = false := by
  obtain ⟨m, input⟩ := t
  cases input <;> simp_all [Turn.exceeds, Turn.returns]

theorem Turn.rangeExceeded_after (t : Turn) :
    t.after.rangeExceeded = (t.exceeds || t.before.rangeExceeded && !t.returns) := by
  obtain ⟨m, input⟩ := t
  have step := step_transition m input
  unfold Turn.after Turn.exceeds Turn.returns
  dsimp only
  generalize (m.step input).1 = m' at step ⊢
  cases step with
  | unheard deaf =>
      cases input with
      | notify => simp [deaf]
      | finish episode => simp [show m.owns episode = false from deaf]
      | _ => simp
  | concluded outcome owned => cases outcome <;> simp [conclude, owns_iff.2 owned]
  | decided p =>
      rw [decide_rangeExceeded]
      cases p with
      | @notify source state active news =>
          have heard : m.hears (.notify source state) = true := by simp [hears, active, news]
          simp [hear_rangeExceeded, heard]
      | sample r => cases r <;> simp
      | ingest r => cases r <;> simp
      | @finish _ outcome owned => cases outcome <;> simp [conclude, owns_iff.2 owned]
  | _ => simp

theorem Turn.sourceLost_after {t : Turn} (lost : t.before.sourceLost = true)
    (away : t.returns = false) : t.after.sourceLost = true := by
  obtain ⟨m, input⟩ := t
  have step := step_transition m input
  unfold Turn.returns at away
  unfold Turn.after
  dsimp only at lost away ⊢
  generalize (m.step input).1 = m' at step ⊢
  cases step with
  | concluded outcome => rwa [conclude_sourceLost]
  | decided p =>
      rw [decide_sourceLost]
      cases p with
      | @notify source state active news =>
          have heard : m.hears (.notify source state) = true := by simp [hears, active, news]
          simp only [heard, Bool.and_true] at away
          rw [hear_sourceLost]
          split <;> simp_all
      | sample r => cases r <;> exact lost
      | ingest r => cases r <;> exact lost
      | finish => rwa [conclude_sourceLost]
  | _ => exact lost

theorem sourceLost_run {inputs : List Input} (lost : m.sourceLost = true)
    (away : ∀ t ∈ m.history inputs, t.returns = false) : (m.run inputs).1.sourceLost = true := by
  induction inputs generalizing m with
  | nil => exact lost
  | cons input rest ih =>
      simp only [history, List.forall_mem_cons] at away
      exact ih (Turn.sourceLost_after (t := ⟨m, input⟩) lost away.1) away.2

/-- An excess was reported although the source was there, and the source has not come back since. -/
def Overrun (turns : List Turn) : Prop :=
  ∃ earlier t later, turns = earlier ++ t :: later ∧ t.exceeds = true ∧
    t.before.sourceLost = false ∧ ∀ u ∈ later, u.returns = false

theorem overrun_cons : Overrun (t :: turns) ↔
    (t.exceeds = true ∧ t.before.sourceLost = false ∧ ∀ u ∈ turns, u.returns = false) ∨
      Overrun turns := by
  constructor
  · rintro ⟨earlier, u, later, split, rest⟩
    cases earlier with
    | nil =>
        obtain ⟨rfl, rfl⟩ := List.cons.inj split
        exact .inl rest
    | cons first earlier =>
        obtain ⟨rfl, rfl⟩ := List.cons.inj split
        exact .inr ⟨earlier, u, later, rfl, rest⟩
  · rintro (here | ⟨earlier, u, later, rfl, rest⟩)
    · exact ⟨[], t, turns, rfl, here⟩
    · exact ⟨t :: earlier, u, later, rfl, rest⟩

theorem rangeExceeded_run_iff {inputs : List Input}
    (present : (m.run inputs).1.sourceLost = false) :
    (m.run inputs).1.rangeExceeded = true ↔
      (m.rangeExceeded = true ∧ ∀ t ∈ m.history inputs, t.returns = false) ∨
        Overrun (m.history inputs) := by
  induction inputs generalizing m with
  | nil => simp [run, history, Overrun]
  | cons input rest ih =>
      have turn := Turn.rangeExceeded_after ⟨m, input⟩
      rw [run_cons] at present ⊢
      rw [history, overrun_cons, List.forall_mem_cons, ih present]
      -- An excess with the source lost would need a return before the source is there again.
      have there (away : ∀ t ∈ (m.step input).1.history rest, t.returns = false)
          (exceeds : Turn.exceeds ⟨m, input⟩ = true) : m.sourceLost = false := by
        have still : Turn.returns ⟨m, input⟩ = false := Turn.not_returns_of_exceeds exceeds
        rw [Bool.eq_false_iff]
        intro lost
        have lost := sourceLost_run (Turn.sourceLost_after (t := ⟨m, input⟩) lost still) away
        rw [Turn.after, present] at lost
        nomatch lost
      rw [show (m.step input).1.rangeExceeded = _ from turn]
      simp only [Bool.or_eq_true, Bool.and_eq_true, Bool.not_eq_true']
      constructor
      · rintro (⟨exceeds | ⟨latch, still⟩, away⟩ | overrun)
        · exact .inr (.inl ⟨exceeds, there away exceeds, away⟩)
        · exact .inl ⟨latch, still, away⟩
        · exact .inr (.inr overrun)
      · rintro (⟨latch, still, away⟩ | ⟨exceeds, -, away⟩ | overrun)
        · exact .inl ⟨.inr ⟨latch, still⟩, away⟩
        · exact .inl ⟨.inl exceeds, away⟩
        · exact .inr overrun

theorem Settled.notify_course_of_loss {state : SyncState} (h : Settled m)
    (active : m.monitoring = true) (published : m.state = .locked)
    (hold : m.fused.holdsOver = true) (loss : state ≠ .locked)
    (news : m.lastSeen.get .gnss ≠ state) :
    (m.notify .gnss state).1.course =
      if m.rangeExceeded then { m.course with sourceLost := true, state := .freeRun }
      else { m.course with
        sourceLost := true, state := .holdover, episode := some m.nextEpisode,
        nextEpisode := m.nextEpisode + 1 } := by
  obtain ⟨-, inSpec, idle, -⟩ := h.safe.locked published
  have seen : m.window? ≠ none := by
    intro blind
    have free := h.blind blind
    rw [published] at free
    nomatch free
  obtain ⟨w, window⟩ := Option.ne_none_iff_exists'.1 seen
  rw [notify_course active window hold loss news]
  simp [Course.settle, Monitor.course, inSpec, idle]

/-- A locked clock that can hold over does so at every fresh loss of its source, with a countdown
that starts then, unless an overrun is remembered: then it runs free and starts none. -/
theorem arms_iff_no_overrun {settings : Settings} {inputs : List Input} {state : SyncState}
    (created : create settings = .ok m) (active : (m.run inputs).1.monitoring = true)
    (published : (m.run inputs).1.state = .locked)
    (hold : (m.run inputs).1.fused = .lockedHoldoverAcquired ∨
      (m.run inputs).1.fused = .holdover)
    (loss : state ≠ .locked) (news : (m.run inputs).1.lastSeen.get .gnss ≠ state) :
    let locked := (m.run inputs).1
    let lost := (locked.notify .gnss state).1
    lost.sourceLost = true ∧
      (¬Overrun (m.history inputs) → lost.state = .holdover ∧
        lost.episode = some locked.nextEpisode ∧ lost.nextEpisode = locked.nextEpisode + 1) ∧
      (Overrun (m.history inputs) → lost.state = .freeRun ∧ lost.episode = none ∧
        lost.nextEpisode = locked.nextEpisode) := by
  intro locked lost
  have settled : Settled locked := ((Reachable.create created).run inputs).settled
  obtain ⟨present, -, idle, -⟩ := settled.safe.locked published
  have new : m.rangeExceeded = false := by
    obtain ⟨_, _, rfl⟩ := eq_fresh_of_create created
    rfl
  have latch : locked.rangeExceeded = true ↔ Overrun (m.history inputs) := by
    rw [rangeExceeded_run_iff present, new]
    simp
  have course : lost.course = _ := settled.notify_course_of_loss active published
    (LockStatus.holdsOver_iff.2 hold) loss news
  rw [← latch]
  by_cases excess : locked.rangeExceeded = true
  · rw [if_pos excess] at course
    refine ⟨congrArg Course.sourceLost course, absurd excess, fun _ => ?_⟩
    exact ⟨congrArg Course.state course, (congrArg Course.episode course).trans idle,
      congrArg Course.nextEpisode course⟩
  · rw [if_neg excess] at course
    refine ⟨congrArg Course.sourceLost course, fun _ => ?_, (absurd · excess)⟩
    exact ⟨congrArg Course.state course, congrArg Course.episode course,
      congrArg Course.nextEpisode course⟩

def mended : List Input :=
  [.bind .standard, .resolved .sysfs, .activate, .sample ⟨some 3, some 3, some 40⟩,
    .notify .gnss .freeRun, .extrapolate 1 120, .finish 1 .rangeExceeded,
    .sample ⟨some 3, some 3, some 30⟩, .notify .gnss .locked]

theorem not_overrun_of_all (h : turns.all (fun t => !t.exceeds || t.before.sourceLost) = true) :
    ¬Overrun turns := by
  rintro ⟨earlier, t, later, rfl, exceeds, present, -⟩
  have := List.all_eq_true.1 h t (by simp)
  simp [exceeds, present] at this

theorem arms_iff_no_overrun_mended :
    ∃ m, create (.standard 1 "ens1f0" [.gnss]) = .ok m ∧
      let locked := (m.run mended).1
      let lost := (locked.notify .gnss .freeRun).1
      locked.monitoring = true ∧ locked.stopping = false ∧ locked.state = .locked ∧
      locked.fused = .lockedHoldoverAcquired ∧ locked.lastSeen.get .gnss ≠ .freeRun ∧
      ¬Overrun (m.history mended) ∧
      lost.sourceLost = true ∧ lost.state = .holdover ∧ lost.episode = some 2 := by
  obtain ⟨m, created, active, running, published, hold, news, steady, next⟩ :
      ∃ m, create (.standard 1 "ens1f0" [.gnss]) = .ok m ∧ (m.run mended).1.monitoring = true ∧
        (m.run mended).1.stopping = false ∧ (m.run mended).1.state = .locked ∧
        (m.run mended).1.fused = .lockedHoldoverAcquired ∧
        (m.run mended).1.lastSeen.get .gnss = .locked ∧
        (m.history mended).all (fun t => !t.exceeds || t.before.sourceLost) = true ∧
        (m.run mended).1.nextEpisode = 2 := ⟨_, rfl, rfl, rfl, rfl, rfl, rfl, rfl, rfl⟩
  have news : (m.run mended).1.lastSeen.get .gnss ≠ .freeRun := by
    rw [news]
    nofun
  have none := not_overrun_of_all steady
  have loss : SyncState.freeRun ≠ .locked := nofun
  obtain ⟨lost, arms, -⟩ := arms_iff_no_overrun created active published (.inl hold) loss news
  obtain ⟨holds, owned, -⟩ := arms none
  exact ⟨m, created, active, running, published, hold, news, none, lost, holds,
    owned.trans (congrArg some next)⟩

/-- The source comes back out of range, the countdown goes on to its excess, and the clock locks.
When the source goes again, the clock runs free although it could hold over. -/
theorem excess_outlasts_lock :
    ∃ m, create (.standard 1 "ens1f0" [.gnss]) = .ok m ∧
      let locked := (m.run [.bind .standard, .resolved .sysfs, .activate,
        .sample ⟨some 3, some 3, some 40⟩, .notify .gnss .freeRun,
        .sample ⟨some 3, some 3, some 150⟩, .notify .gnss .locked, .extrapolate 1 120,
        .finish 1 .rangeExceeded, .sample ⟨some 3, some 3, some 30⟩]).1
      let lost := (locked.notify .gnss .freeRun).1
      Reachable locked ∧ locked.monitoring = true ∧ locked.stopping = false ∧
      locked.state = .locked ∧ locked.fused = .lockedHoldoverAcquired ∧
      locked.lastSeen.get .gnss = .locked ∧ lost.sourceLost = true ∧ lost.state = .freeRun ∧
      lost.episode = none := by
  have created : create (.standard 1 "ens1f0" [.gnss]) = .ok _ := rfl
  have reached := (Reachable.create created).run [.bind .standard, .resolved .sysfs, .activate,
    .sample ⟨some 3, some 3, some 40⟩, .notify .gnss .freeRun,
    .sample ⟨some 3, some 3, some 150⟩, .notify .gnss .locked, .extrapolate 1 120,
    .finish 1 .rangeExceeded, .sample ⟨some 3, some 3, some 30⟩]
  exact ⟨_, created, reached, rfl, rfl, rfl, rfl, rfl, rfl, rfl, rfl⟩

end DpllWatch.Monitor
