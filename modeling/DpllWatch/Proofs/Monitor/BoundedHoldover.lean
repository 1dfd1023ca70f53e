import DpllWatch.Proofs.Monitor.Safety

/-! Who ends a published holdover. As a rule a countdown does. But a countdown can end while the
source is there and the offset out of range; the state is then kept, and until the source goes or
the offset comes back nothing bounds the holdover. -/

namespace DpllWatch.Monitor

variable {m m' : Monitor}

/-- A published holdover that no countdown ends. -/
def Unattended (m : Monitor) : Prop := m.state = .holdover ∧ m.episode = none

theorem Verdict.unattended_iff {inRange : Bool} (v : m.Verdict inRange m') :
    Unattended m' ↔
      Unattended m ∧ m.fused.holdsOver = true ∧ m.inSpec = true ∧ m.sourceLost = false ∧
        inRange = false := by
  unfold Unattended
  cases v with
  | unusable unusable =>
      have spent : m.fused.holdsOver ≠ true := fun hold => by
        simp [LockStatus.usable_of_holdsOver hold] at unusable
      simp [spent]
  | tracking locked => simp [locked, LockStatus.holdsOver]
  | straying locked => simp [locked, LockStatus.holdsOver]
  | recovered _ _ inRange => simp [inRange]
  | holding _ lost _ owned => simp [lost, Option.isSome_iff_ne_none.1 owned]
  | latched _ lost => simp [lost]
  | armed _ lost => simp [lost, arm]
  | spent _ _ spent => simp [spent]
  | kept hold present inRange inSpec => simp [hold, present, inRange, inSpec]

theorem Coherent.decide_unattended_iff (h : Coherent m) :
    Unattended m.decide.1 ↔
      Unattended m ∧ m.fused.holdsOver = true ∧ m.inSpec = true ∧ m.sourceLost = false ∧
        ∃ w, m.window? = some w ∧ w.contains m.offset = false := by
  refine decide_cases (fun blind => ?_) fun w m' window verdict => ?_
  · have published : m.state = .freeRun := h.blind blind
    simp [Unattended, published]
  · simp only [window, Option.some.injEq, exists_eq_left']
    exact verdict.unattended_iff

theorem Settled.finish_unattended_iff {episode : Nat} {outcome : Countdown.Outcome}
    (h : Settled m) (owned : m.episode = some episode) :
    Unattended (m.conclude outcome).decide.1 ↔
      outcome ≠ .expired ∧ m.sourceLost = false ∧
        ∃ w, m.window? = some w ∧ w.contains m.offset = false := by
  have safe := h.safe.owned (by rw [owned]; rfl)
  have hold : m.fused.holdsOver = true := LockStatus.holdsOver_iff.2 safe.2.2
  rw [(h.conclude outcome).decide_unattended_iff, conclude_fused, conclude_window?]
  cases outcome with
  | expired => simp [conclude]
  | cancelled => simp [conclude, Unattended, safe, hold]
  | rangeExceeded => simp [conclude, Unattended, safe, hold]

theorem Transition.sourceLost_of_unattended {input : Input} (settled : Settled m)
    (h : Unattended m → m.sourceLost = false) (running : m'.stopping = false)
    (t : Transition m input m') : Unattended m' → m'.sourceLost = false := by
  cases t with
  | concluded outcome _ stopping =>
      rw [conclude_stopping, stopping] at running
      nomatch running
  | stopped => nomatch running
  | tornDown => nomatch running
  | decided p =>
      intro unattended
      rw [decide_sourceLost]
      exact ((p.coherent settled.toCoherent).decide_unattended_iff.1 unattended).2.2.2.1
  | _ => exact h

theorem Reachable.sourceLost_of_unattended (h : Reachable m) (running : m.stopping = false) :
    Unattended m → m.sourceLost = false := by
  induction h with
  | create created =>
      obtain ⟨_, _, rfl⟩ := eq_fresh_of_create created
      exact fun _ => rfl
  | @step m input before ih =>
      have earlier := ih (running_of_step running)
      exact (step_transition m input).sourceLost_of_unattended before.settled earlier running

theorem Transition.unattended_iff {input : Input} (settled : Settled m) (attended : ¬Unattended m)
    (running : m.stopping = false) (going : m'.stopping = false) (t : Transition m input m') :
    Unattended m' ↔
      ∃ episode outcome, m.episode = some episode ∧ input = .finish episode outcome ∧
        outcome ≠ .expired ∧ m.sourceLost = false ∧
        ∃ w, m.window? = some w ∧ w.contains m.offset = false := by
  cases t with
  | unheard deaf =>
      apply iff_of_false attended
      rintro ⟨episode, outcome, owned, rfl, -⟩
      simp [hears, owns_iff.2 owned] at deaf
  | resolved => exact iff_of_false attended (by simp)
  | bound => exact iff_of_false attended (by simp)
  | activated => exact iff_of_false attended (by simp)
  | ticked => exact iff_of_false attended (by simp)
  | concluded _ _ stopping => simp [running] at stopping
  | stopped => simp at going
  | tornDown => simp at going
  | @decided _ m₁ p =>
      rcases p.frame with ⟨episode, outcome, rfl, owned, rfl⟩ | ⟨other, _, _, _, _, _, _, _, told⟩
      · rw [settled.finish_unattended_iff owned]
        simp [owned]
      · -- A decision brings no such holdover about, so there was none to keep.
        have same : Unattended m₁ ↔ Unattended m := by rw [told]; rfl
        rw [(p.coherent settled.toCoherent).decide_unattended_iff, same]
        apply iff_of_false
        · exact fun h => attended h.1
        · rintro ⟨episode, outcome, -, report, -⟩
          exact other episode outcome report

/-- Before a stop a published holdover has a countdown, or else the source is there. Only one thing
leaves a holdover without its countdown: that countdown reports an excess or a cancellation while
the source is there and the offset is out of range. However else an episode ends, the same step
leaves the holdover or starts the next episode. -/
theorem holdover_bounded (reach : Reachable m) (running : m.stopping = false) :
    (m.state = .holdover → m.episode.isSome = true ∨ m.sourceLost = false) ∧
      ∀ input, (m.state = .holdover → m.episode.isSome = true) →
        (m.step input).1.stopping = false →
        ((m.step input).1.state = .holdover ∧ (m.step input).1.episode = none ↔
          ∃ episode outcome, m.episode = some episode ∧ input = .finish episode outcome ∧
            outcome ≠ .expired ∧ m.sourceLost = false ∧
            ∃ w, m.window? = some w ∧ w.contains m.offset = false) := by
  constructor
  · intro hold
    cases he : m.episode with
    | none => exact .inr (reach.sourceLost_of_unattended running ⟨hold, he⟩)
    | some _ => exact .inl rfl
  · intro input owned going
    have attended : ¬Unattended m := by
      rintro ⟨hold, idle⟩
      have owned := owned hold
      rw [idle] at owned
      nomatch owned
    exact (step_transition m input).unattended_iff reach.settled attended running going

def relapse : List Input :=
  [.bind .standard, .resolved .sysfs, .activate, .sample ⟨some 3, some 3, some 40⟩,
    .notify .gnss .freeRun, .sample ⟨some 3, some 3, some 150⟩, .notify .gnss .locked,
    .extrapolate 1 120]

theorem holdover_bounded_at_expiry :
    ∃ m, create (.standard 1 "ens1f0" [.gnss]) = .ok m ∧
      let held := (m.run relapse).1
      let after := (held.step (.finish 1 .expired)).1
      Reachable held ∧ held.stopping = false ∧ held.state = .holdover ∧
      (held.episode.isSome = true ∨ held.sourceLost = false) ∧
      (held.state = .holdover → held.episode.isSome = true) ∧ after.stopping = false ∧
      ¬(after.state = .holdover ∧ after.episode = none) := by
  have created : create (.standard 1 "ens1f0" [.gnss]) = .ok _ := rfl
  have reached := (Reachable.create created).run relapse
  have bounded := holdover_bounded reached rfl
  refine ⟨_, created, reached, rfl, rfl, bounded.1 rfl, fun _ => rfl, rfl, ?_⟩
  rw [bounded.2 (.finish 1 .expired) (fun _ => rfl) rfl]
  rintro ⟨episode, outcome, -, same, unexpired, -⟩
  cases same
  exact unexpired rfl

/-- The tick that leaves the window ends the countdown, and its report keeps the holdover. -/
theorem unattended_reachable :
    ∃ m, create (.standard 1 "ens1f0" [.gnss]) = .ok m ∧
      let held := (m.run (relapse.take 7)).1
      let told := held.extrapolate 1 120
      let after := (told.1.finish 1 .rangeExceeded).1
      held.episode = some 1 ∧ told.2 = false ∧ Reachable after ∧ after.stopping = false ∧
      after.state = .holdover ∧ after.episode = none := by
  have created : create (.standard 1 "ens1f0" [.gnss]) = .ok _ := rfl
  have reached := ((Reachable.create created).run relapse).step (.finish 1 .rangeExceeded)
  exact ⟨_, created, rfl, rfl, reached, rfl, rfl, rfl⟩

end DpllWatch.Monitor
