import DpllWatch.Proofs.Monitor.Batches
import DpllWatch.Proofs.Monitor.Overlap
import DpllWatch.Proofs.Monitor.Safety

/-! The same readings again. A decision that is repeated on what it was made on comes out as before,
because it leaves a monitor that every outcome keeps as it is; so a reading that is delivered twice
counts once more and is reported once more, and that is all. -/

namespace DpllWatch.Monitor

open Netlink (Device)

variable {m m' : Monitor}

/-! Calls that overlap break none of the promises of `Settled`. -/

theorem Settled.act (h : Settled m) (move : Move) : Settled (m.act move).1 := by
  cases move with
  | call input => exact (step_transition m input).settled h
  | deliver source state =>
      rcases m.deliver_cases source state with same | decided
      · rwa [Monitor.act, same]
      · obtain ⟨_, _, _, _, heard⟩ := m.hear_frame source state
        have coherent : Coherent (m.hear source state) := by
          rw [heard]
          exact ⟨h.owned, h.outOfSpec, h.blind⟩
        rw [Monitor.act, decided]
        exact coherent.decide
  | letGo =>
      -- The rest of a teardown changes nothing that is promised.
      have torn := Transition.tornDown.settled h
      rw [Monitor.act, letGo, release_eq]
      exact ⟨⟨torn.owned, torn.outOfSpec, torn.blind⟩, torn.holdover, torn.locked⟩
  | start => exact ⟨⟨h.owned, h.outOfSpec, h.blind⟩, h.holdover, h.locked⟩
  | farewell => exact h
  | goDeaf => exact ⟨⟨h.owned, h.outOfSpec, h.blind⟩, h.holdover, h.locked⟩

theorem Settled.play (h : Settled m) (moves : List Move) : Settled (m.play moves).1 := by
  induction moves generalizing m with
  | nil => exact h
  | cons move rest ih => exact ih (h.act move)

theorem settled_of_create {settings : Settings} (created : create settings = .ok m) :
    Settled m := (Reachable.create created).settled

theorem Verdict.counted {inRange : Bool} (v : m.Verdict inRange m') (decisions : Nat) :
    Verdict { m with decisions := decisions } inRange { m' with decisions := decisions } := by
  cases v with
  | unusable unusable => exact .unusable unusable
  | tracking locked present inRange => exact .tracking locked present inRange
  | straying locked away => exact .straying locked away
  | recovered hold present inRange => exact .recovered hold present inRange
  | holding hold lost inSpec owned => exact .holding hold lost inSpec owned
  | latched hold lost inSpec idle latch => exact .latched hold lost inSpec idle latch
  | armed hold lost inSpec idle clear => exact .armed hold lost inSpec idle clear
  | spent hold away spent => exact .spent hold away spent
  | kept hold present outOfRange inSpec => exact .kept hold present outOfRange inSpec

/-- Whatever the verdict, reaching it again changes nothing. A clock out of spec must own no
countdown for that: giving it up would put the clock back in spec. -/
theorem Verdict.settle_eq {inRange : Bool} (h : Coherent m) (v : m.Verdict inRange m') :
    m'.settle inRange = m' := by
  cases v with
  | unusable unusable => exact settle_of_unusable (by exact unusable) inRange
  | tracking locked present inRange =>
      refine (settle_of_locked (by exact locked) _).trans ?_
      simp [present, inRange]
  | straying locked away =>
      refine (settle_of_locked (by exact locked) _).trans ?_
      rcases away with lost | outOfRange
      · simp [lost]
      · simp [outOfRange]
  | recovered hold present inRange =>
      refine (settle_of_holdsOver (by exact hold) _).trans ?_
      simp [present, inRange, release_eq]
  | holding hold lost inSpec owned =>
      rw [settle_of_holdsOver hold]
      simp [lost, inSpec, owned]
  | latched hold lost inSpec idle latch =>
      refine (settle_of_holdsOver (by exact hold) _).trans ?_
      simp [lost, inSpec, idle, latch]
  | armed hold lost inSpec =>
      refine (settle_of_holdsOver (by exact hold) _).trans ?_
      simp [arm, lost, inSpec]
  | spent hold away spent =>
      have published := h.outOfSpec spent
      have idle : m.episode = none := h.idle (by simp [published])
      refine (settle_of_holdsOver (by exact hold) _).trans ?_
      rcases away with lost | outOfRange
      · simp [idle, lost, release_eq]
      · simp [idle, outOfRange, release_eq]
  | kept hold present outOfRange inSpec =>
      rw [settle_of_holdsOver hold]
      simp [present, outOfRange, inSpec]

theorem Coherent.decide_twice (h : Coherent m) :
    m.decide.1.decide =
      ({ m.decide.1 with decisions := m.decide.1.decisions + 1 }, m.decide.2) := by
  have state : m.decide.1.decide.1 =
      { m.decide.1 with decisions := m.decide.1.decisions + 1 } := by
    cases window : m.window? with
    | none =>
        have blind : m.decide.1.window? = none := by rw [decide_window?, window]
        rw [decide_eq_of_no_window blind]
    | some w =>
        have window' : m.decide.1.window? = some w := by rw [decide_window?, window]
        have range : w.contains m.decide.1.offset = w.contains m.offset := by rw [decide_offset]
        rw [decide_eq_of_window window', range]
        have coherent : Coherent { m with decisions := m.decide.1.decisions + 1 } :=
          ⟨h.owned, h.outOfSpec, h.blind⟩
        exact ((decide_verdict window).counted _).settle_eq coherent
  refine Prod.ext state ?_
  rw [decide_offers, decide_offers, state, decide_stopping, decide_profile]
  rfl

/-! What a reading tells is known already after the decision on it. -/

theorem takeSample_decide (m : Monitor) (s : Sample) :
    (m.takeSample s).decide.1.takeSample s = (m.takeSample s).decide.1 := by
  obtain ⟨_, _, _, _, decided⟩ := (m.takeSample s).decide_frame
  rw [decided]
  cases s with
  | mk frequency phase offset =>
    cases frequency <;> cases phase <;> cases offset <;> cases lost : m.sourceLost <;>
      simp [takeSample, lost]

theorem informed_decide (m : Monitor) (frequency phase : List Device) :
    (m.informed frequency phase).decide.1.informed frequency phase =
      (m.informed frequency phase).decide.1 := by
  have again (told : Option LockStatus) (known : LockStatus) :
      told.getD (told.getD known) = told.getD known := by cases told <;> rfl
  obtain ⟨_, _, _, _, decided⟩ := (m.informed frequency phase).decide_frame
  rw [decided]
  cases phase <;> cases lost : m.sourceLost <;> simp [informed, again, lost]

theorem takeDevices_decide (m : Monitor) (devices : List Device) :
    (m.takeDevices devices).1.decide.1.takeDevices devices =
      ((m.takeDevices devices).1.decide.1, (m.takeDevices devices).2) := by
  rw [m.takeDevices_eq devices]
  have clock : (m.informed (Device.about m.settings.clockId .frequency devices)
      (Device.about m.settings.clockId .phase devices)).decide.1.settings = m.settings := by
    obtain ⟨_, _, _, _, decided⟩ := (m.informed _ _).decide_frame
    rw [decided]
    rfl
  rw [takeDevices_eq, clock, informed_decide]

theorem Coherent.refresh (h : Coherent m) (r : Refresh m m') : Coherent m' := by
  obtain ⟨_, _, _, _, rfl⟩ := r.frame
  exact ⟨h.owned, h.outOfSpec, h.blind⟩

def Input.isReading : Input → Bool
  | .sample _ | .ingest _ => true
  | _ => false

theorem fails_of_reading {input : Input} (reading : input.isReading = true) :
    m.fails input = (m.hears input && m.window?.isNone) := by
  cases input with
  | sample | ingest => rfl
  | _ => cases reading

theorem step_of_reading {input : Input} (reading : input.isReading = true)
    (heard : m.hears input = true) :
    ∃ m', Refresh m m' ∧ m.step input = m'.decide ∧
      m'.decide.1.hears input = true ∧ m'.decide.1.step input = m'.decide.1.decide := by
  cases input with
  | sample s =>
      refine ⟨m.takeSample s, takeSample_refresh m s, rfl, rfl, ?_⟩
      rw [step, sample, takeSample_decide]
  | ingest devices =>
      have heard : (m.takeDevices devices).2 = true := heard
      refine ⟨(m.takeDevices devices).1, takeDevices_refresh m devices, ?_, ?_, ?_⟩
      · simp [step, ingest, heard]
      · simp [hears, takeDevices_decide, heard]
      · simp [step, ingest, takeDevices_decide, heard]
  | _ => cases reading

/-- In every state that a monitor can come to, a reading that is delivered again changes the count
of decisions alone, and is reported as it was the first time. -/
theorem reading_reasserts {settings : Settings} {m₀ : Monitor} (created : create settings = .ok m₀)
    (moves : List Move) {input : Input} (reading : input.isReading = true) :
    let m := (m₀.play moves).1
    let first := m.step input
    let second := first.1.step input
    second.1 = { first.1 with
        decisions := first.1.decisions + if m.hears input then 1 else 0 } ∧
      second.2 = first.2 ∧
      first.1.fails input = m.fails input ∧
      (m.hears input = true → m.stopping = false → ∀ p, m.profile = some p →
        second.2 = [first.1.report p]) := by
  intro m first second
  have settled : Settled m := (settled_of_create created).play moves
  rw [fails_of_reading reading, fails_of_reading reading]
  cases heard : m.hears input with
  | false =>
      have unheard : first = (m, []) := step_of_not_hears heard
      have again : second = (m, []) := by simp only [second, unheard, step_of_not_hears heard]
      simp [unheard, again, heard]
  | true =>
      obtain ⟨m', refresh, decided, heardAgain, again⟩ := step_of_reading reading heard
      have decided : first = m'.decide := decided
      have again : second = m'.decide.1.decide := by simp only [second, decided, again]
      have twice := (settled.toCoherent.refresh refresh).decide_twice
      obtain ⟨_, _, _, _, known⟩ := refresh.frame
      have window : m'.window? = m.window? := by rw [known]; rfl
      rw [again, twice, decided, heardAgain, decide_window?, window]
      refine ⟨rfl, rfl, rfl, fun _ running p bound => ?_⟩
      have running : m'.stopping = false := by rw [known]; exact running
      have bound : m'.profile = some p := by rw [known]; exact bound
      simp [decide_offers, running, bound]

theorem reading_reasserts_holdover :
    ∃ m₀, create (.standard 1 "ens1f0" [.gnss]) = .ok m₀ ∧
      let moves : List Move := [.call (.bind .standard), .call (.resolved .sysfs), .start,
        .deliver .gnss .freeRun]
      let m := (m₀.play moves).1
      let first := m.step (.sample ⟨some 3, some 3, some 40⟩)
      let second := first.1.step (.sample ⟨some 3, some 3, some 40⟩)
      m.episode = none ∧ first.1.episode = some 1 ∧ second.1.episode = some 1 ∧
        second.1.nextEpisode = 2 ∧ second.2 = [first.1.report .standard] := by
  have created : create (.standard 1 "ens1f0" [.gnss]) = .ok _ := rfl
  have reading : Input.isReading (.sample ⟨some 3, some 3, some 40⟩) = true := rfl
  obtain ⟨same, -, -, reported⟩ := reading_reasserts created
    [.call (.bind .standard), .call (.resolved .sysfs), .start, .deliver .gnss .freeRun] reading
  refine ⟨_, created, rfl, rfl, ?_, ?_, reported rfl rfl _ rfl⟩
  · rw [same]
    rfl
  · rw [same]
    rfl

end DpllWatch.Monitor
