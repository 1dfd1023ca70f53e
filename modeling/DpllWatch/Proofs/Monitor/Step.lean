import DpllWatch.Monitor.Input
import DpllWatch.Proofs.Monitor.Decision

/-! What one input can do to a monitor. An input that is not heard changes nothing; `Transition`
lists what every other input does, and most of them end in a decision. -/

namespace DpllWatch.Monitor

open Netlink (Device)

variable {m m' m'' : Monitor}

/-- Samples and device messages change the readings only. A phase offset that is measured while the
source is there is also the one that decisions look at. -/
inductive Refresh (m : Monitor) : Monitor → Prop where
  | statuses (phase frequency : LockStatus) :
      Refresh m { m with phase := phase, frequency := frequency }
  | measured (phase frequency : LockStatus) (phaseOffset : Int64) :
      Refresh m { m with
        phase := phase, frequency := frequency, phaseOffset := phaseOffset,
        offset := if m.sourceLost then m.offset else phaseOffset }

theorem Refresh.trans (h : Refresh m m') (h' : Refresh m' m'') : Refresh m m'' := by
  cases h with
  | statuses =>
      cases h' with
      | statuses phase frequency => exact .statuses phase frequency
      | measured phase frequency phaseOffset => exact .measured phase frequency phaseOffset
  | measured _ _ old =>
      cases h' with
      | statuses phase frequency => exact .measured phase frequency old
      | measured phase frequency phaseOffset =>
          have h := Refresh.measured (m := m) phase frequency phaseOffset
          cases hs : m.sourceLost <;> simpa [hs] using h

theorem Refresh.frame (h : Refresh m m') :
    ∃ phase frequency phaseOffset offset, m' = { m with
      phase := phase, frequency := frequency, phaseOffset := phaseOffset, offset := offset } := by
  cases h <;> exact ⟨_, _, _, _, rfl⟩

theorem takeSample_refresh (m : Monitor) (s : Sample) : Refresh m (m.takeSample s) := by
  cases s with
  | mk frequency phase offset =>
    cases frequency <;> cases phase <;> cases offset
    all_goals first | exact .statuses _ _ | exact .measured _ _ _

theorem takeDevice_refresh (m : Monitor) (d : Device) : Refresh m (m.takeDevice d).1 := by
  unfold takeDevice
  split
  · exact .statuses _ _
  · split
    · exact .statuses _ _
    · exact .measured _ _ 0
    · exact .statuses _ _

theorem takeDevice_of_not_concerned {d : Device} (h : (m.takeDevice d).2 = false) :
    (m.takeDevice d).1 = m := by
  unfold takeDevice at h ⊢
  split
  · rfl
  · rename_i about
    rw [if_neg about] at h
    split <;> simp_all

theorem takeDevices_refresh (m : Monitor) (devices : List Device) :
    Refresh m (m.takeDevices devices).1 := by
  induction devices generalizing m with
  | nil => exact .statuses _ _
  | cons d rest ih => exact (takeDevice_refresh m d).trans (ih _)

theorem takeDevices_of_not_concerned {devices : List Device}
    (h : (m.takeDevices devices).2 = false) : (m.takeDevices devices).1 = m := by
  induction devices generalizing m with
  | nil => rfl
  | cons d rest ih =>
      simp only [takeDevices, Bool.or_eq_false_iff] at h ⊢
      rw [ih h.2, takeDevice_of_not_concerned h.1]

theorem hear_frame (m : Monitor) (source : Source) (state : SyncState) :
    ∃ offset sourceLost rangeExceeded lastSeen, m.hear source state = { m with
      offset := offset, sourceLost := sourceLost, rangeExceeded := rangeExceeded,
      lastSeen := lastSeen } := by
  unfold hear
  dsimp only
  split <;> exact ⟨_, _, _, _, rfl⟩

@[simp] theorem hear_episode (m : Monitor) (source : Source) (state : SyncState) :
    (m.hear source state).episode = m.episode := by
  obtain ⟨_, _, _, _, h⟩ := m.hear_frame source state
  rw [h]

@[simp] theorem hear_nextEpisode (m : Monitor) (source : Source) (state : SyncState) :
    (m.hear source state).nextEpisode = m.nextEpisode := by
  obtain ⟨_, _, _, _, h⟩ := m.hear_frame source state
  rw [h]

theorem hear_rangeExceeded (m : Monitor) (source : Source) (state : SyncState) :
    (m.hear source state).rangeExceeded =
      (m.rangeExceeded && !(source == .gnss && state == .locked)) := by
  unfold hear
  dsimp only
  split <;> simp_all [trackGnss, bne]

theorem hear_sourceLost (m : Monitor) (source : Source) (state : SyncState) :
    (m.hear source state).sourceLost =
      if source = .gnss then state != .locked else m.sourceLost := by
  unfold hear
  dsimp only
  split <;> rfl

@[simp] theorem conclude_fused (m : Monitor) (outcome : Countdown.Outcome) :
    (m.conclude outcome).fused = m.fused := by
  cases outcome <;> rfl

@[simp] theorem conclude_window? (m : Monitor) (outcome : Countdown.Outcome) :
    (m.conclude outcome).window? = m.window? := by
  cases outcome <;> rfl

@[simp] theorem conclude_sourceLost (m : Monitor) (outcome : Countdown.Outcome) :
    (m.conclude outcome).sourceLost = m.sourceLost := by
  cases outcome <;> rfl

@[simp] theorem conclude_stopping (m : Monitor) (outcome : Countdown.Outcome) :
    (m.conclude outcome).stopping = m.stopping := by
  cases outcome <;> rfl

def hears (m : Monitor) : Input → Bool
  | .resolved _ | .bind _ | .sample _ | .beginStop => true
  | .activate => !(m.stopping || m.backend == .absent)
  | .notify source state => m.monitoring && m.lastSeen.get source != state
  | .ingest devices => (m.takeDevices devices).2
  | .extrapolate episode _ | .finish episode _ => m.owns episode
  | .teardown => !m.tornDown

theorem owns_iff {episode : Nat} : m.owns episode = true ↔ m.episode = some episode := by
  simp [owns]

theorem step_of_not_hears {input : Input} (h : m.hears input = false) :
    m.step input = (m, []) := by
  cases input <;> simp only [hears, Bool.true_eq_false] at h
  case activate =>
    simp only [Bool.not_eq_false'] at h
    simp [step, activate, h]
  case notify source state =>
    cases hm : m.monitoring <;> simp_all [step, notify]
  case ingest devices => simp [step, ingest, h, takeDevices_of_not_concerned h]
  case extrapolate => simp [step, extrapolate, h]
  case finish => simp [step, finish, h]
  case teardown => simp_all [step, teardown]

inductive Prelude (m : Monitor) : Input → Monitor → Prop where
  | notify {source : Source} {state : SyncState} : m.monitoring = true →
      m.lastSeen.get source ≠ state → Prelude m (.notify source state) (m.hear source state)
  | sample {s : Sample} {m' : Monitor} : Refresh m m' → Prelude m (.sample s) m'
  | ingest {devices : List Device} {m' : Monitor} : Refresh m m' →
      Prelude m (.ingest devices) m'
  | finish {episode : Nat} {outcome : Countdown.Outcome} : m.episode = some episode →
      m.stopping = false → Prelude m (.finish episode outcome) (m.conclude outcome)

/-- Everything that an input can do. -/
inductive Transition (m : Monitor) : Input → Monitor → Prop where
  | unheard {input : Input} : m.hears input = false → Transition m input m
  | resolved (backend : Backend) : Transition m (.resolved backend) { m with backend := backend }
  | bound (profile : Profile) : Transition m (.bind profile) { m with profile := some profile }
  | activated : m.stopping = false → Transition m .activate { m with monitoring := true }
  | ticked {episode : Nat} (offset : Int64) : m.episode = some episode →
      Transition m (.extrapolate episode offset) { m with offset := offset }
  | concluded {episode : Nat} (outcome : Countdown.Outcome) : m.episode = some episode →
      m.stopping = true → Transition m (.finish episode outcome) (m.conclude outcome)
  | stopped : Transition m .beginStop { m with stopping := true }
  | tornDown : Transition m .teardown { m with
      tornDown := true, stopping := true, monitoring := false,
      episode := none, inSpec := m.episode.isSome || m.inSpec }
  | decided {input : Input} {m' : Monitor} : Prelude m input m' →
      Transition m input m'.decide.1

theorem step_transition (m : Monitor) (input : Input) : m.Transition input (m.step input).1 := by
  cases heard : m.hears input with
  | false =>
      rw [step_of_not_hears heard]
      exact .unheard heard
  | true =>
      cases input with
      | resolved backend => exact .resolved backend
      | bind profile => exact .bound profile
      | activate =>
          simp only [hears, Bool.not_eq_true'] at heard
          simp only [step, activate, heard]
          exact .activated (by simp_all)
      | notify source state =>
          simp only [hears, Bool.and_eq_true, bne_iff_ne] at heard
          simp only [step, notify, heard, Bool.not_true, Bool.false_eq_true, if_false]
          exact .decided (.notify heard.1 heard.2)
      | sample s => exact .decided (.sample (takeSample_refresh m s))
      | ingest devices =>
          simp only [hears] at heard
          simp only [step, ingest, heard, if_true]
          exact .decided (.ingest (takeDevices_refresh m devices))
      | extrapolate episode offset =>
          simp only [hears] at heard
          simp only [step, extrapolate, heard, if_true]
          exact .ticked offset (owns_iff.1 heard)
      | finish episode outcome =>
          simp only [hears] at heard
          simp only [step, finish, heard, if_true]
          split
          · rename_i stopping
            rw [conclude_stopping] at stopping
            exact .concluded outcome (owns_iff.1 heard) stopping
          · rename_i running
            rw [conclude_stopping, Bool.not_eq_true] at running
            exact .decided (.finish (owns_iff.1 heard) running)
      | beginStop => exact .stopped
      | teardown =>
          simp only [hears, Bool.not_eq_true'] at heard
          simp only [step, teardown, heard, Bool.false_eq_true, if_false, release_eq]
          exact .tornDown

theorem Prelude.frame {input : Input} (p : Prelude m input m') :
    (∃ episode outcome, input = .finish episode outcome ∧ m.episode = some episode ∧
      m' = m.conclude outcome) ∨
    (∀ episode outcome, input ≠ .finish episode outcome) ∧
      ∃ phase frequency phaseOffset offset sourceLost rangeExceeded lastSeen, m' = { m with
        phase := phase, frequency := frequency, phaseOffset := phaseOffset, offset := offset,
        sourceLost := sourceLost, rangeExceeded := rangeExceeded, lastSeen := lastSeen } := by
  cases p with
  | @notify source state =>
      obtain ⟨_, _, _, _, h⟩ := m.hear_frame source state
      exact .inr ⟨nofun, _, _, _, _, _, _, _, h⟩
  | sample r =>
      obtain ⟨_, _, _, _, h⟩ := r.frame
      exact .inr ⟨nofun, _, _, _, _, _, _, _, h⟩
  | ingest r =>
      obtain ⟨_, _, _, _, h⟩ := r.frame
      exact .inr ⟨nofun, _, _, _, _, _, _, _, h⟩
  | finish owned => exact .inl ⟨_, _, rfl, owned, rfl⟩

theorem Prelude.stopping {input : Input} (p : Prelude m input m') : m'.stopping = m.stopping := by
  rcases p.frame with ⟨_, outcome, _, _, rfl⟩ | ⟨_, _, _, _, _, _, _, _, rfl⟩
  · exact conclude_stopping m outcome
  · rfl

theorem Prelude.state {input : Input} (p : Prelude m input m') :
    m'.state = m.state ∨ m'.state = .freeRun := by
  rcases p.frame with ⟨_, outcome, _, _, rfl⟩ | ⟨_, _, _, _, _, _, _, _, rfl⟩
  · cases outcome with
    | expired => exact .inr rfl
    | cancelled => exact .inl rfl
    | rangeExceeded => exact .inl rfl
  · exact .inl rfl

theorem step_settings (m : Monitor) (input : Input) : (m.step input).1.settings = m.settings := by
  have step := step_transition m input
  generalize (m.step input).1 = m' at step ⊢
  cases step with
  | concluded outcome => cases outcome <;> rfl
  | @decided _ m' p =>
      obtain ⟨_, _, _, _, decided⟩ := m'.decide_frame
      rw [decided]
      rcases p.frame with ⟨_, outcome, _, _, rfl⟩ | ⟨_, _, _, _, _, _, _, _, rfl⟩
      · cases outcome <;> rfl
      · rfl
  | _ => rfl

theorem step_stopping {input : Input} (h : m.stopping = true) :
    (m.step input).1.stopping = true := by
  have step := step_transition m input
  generalize (m.step input).1 = m' at step ⊢
  cases step with
  | concluded outcome => rw [conclude_stopping, h]
  | stopped => rfl
  | tornDown => rfl
  | decided p => rw [decide_stopping, p.stopping, h]
  | _ => exact h

theorem running_of_step {input : Input} (h : (m.step input).1.stopping = false) :
    m.stopping = false := by
  cases stopping : m.stopping with
  | false => rfl
  | true =>
      rw [step_stopping stopping] at h
      nomatch h

structure Turn where
  before : Monitor
  input : Input

def Turn.after (t : Turn) : Monitor := (t.before.step t.input).1

def history (m : Monitor) : List Input → List Turn
  | [] => []
  | input :: rest => ⟨m, input⟩ :: history (m.step input).1 rest

theorem stopping_of_mem_history {inputs : List Input} (h : m.stopping = true) {t : Turn}
    (ht : t ∈ m.history inputs) : t.after.stopping = true := by
  induction inputs generalizing m with
  | nil => nomatch ht
  | cons input rest ih =>
      rcases List.mem_cons.1 ht with rfl | later
      · exact step_stopping h
      · exact ih (step_stopping h) later

theorem eq_fresh_of_create {settings : Settings} (h : create settings = .ok m) :
    ∃ settings drift, m = fresh settings drift := by
  unfold Monitor.create at h
  split at h
  · nomatch h
  split at h
  · nomatch h
  cases h
  exact ⟨_, _, rfl⟩

theorem run_cons (m : Monitor) (input : Input) (rest : List Input) :
    m.run (input :: rest) =
      (((m.step input).1.run rest).1, (m.step input).2 ++ ((m.step input).1.run rest).2) := rfl

theorem Reachable.run (h : Reachable m) (inputs : List Input) : Reachable (m.run inputs).1 := by
  induction inputs generalizing m with
  | nil => exact h
  | cons input rest ih => exact ih (h.step input)

end DpllWatch.Monitor
