import DpllWatch.Proofs.Monitor.Step

/-! How a monitor goes through an outage: it holds over as long as it owns a countdown and runs free
afterwards. Nothing else that reaches it while the source stays away makes a difference, provided
that its clock could hold over all along. -/

namespace DpllWatch.Monitor

variable {m m' : Monitor} {w : Window} {episode : Nat}

/-- The part of a monitor that matters during an outage. -/
structure Course where
  window? : Option Window
  stopping : Bool
  sourceLost : Bool
  inSpec : Bool
  rangeExceeded : Bool
  state : SyncState
  episode : Option Nat
  nextEpisode : Nat

def course (m : Monitor) : Course where
  window? := m.window?
  stopping := m.stopping
  sourceLost := m.sourceLost
  inSpec := m.inSpec
  rangeExceeded := m.rangeExceeded
  state := m.state
  episode := m.episode
  nextEpisode := m.nextEpisode

namespace Course

def held (w : Window) (episode : Nat) : Course where
  window? := some w
  stopping := false
  sourceLost := true
  inSpec := true
  rangeExceeded := false
  state := .holdover
  episode := some episode
  nextEpisode := episode + 1

def freed (w : Window) (episode : Nat) (expired : Bool) : Course where
  window? := some w
  stopping := false
  sourceLost := true
  inSpec := !expired
  rangeExceeded := !expired
  state := .freeRun
  episode := none
  nextEpisode := episode + 1

def settle (c : Course) : Course :=
  if c.inSpec then
    if c.episode.isSome then c
    else if c.rangeExceeded then { c with state := .freeRun }
    else { c with
      episode := some c.nextEpisode, nextEpisode := c.nextEpisode + 1, state := .holdover }
  else { c with episode := none, inSpec := c.episode.isSome, state := .freeRun }

@[simp] theorem settle_held (w : Window) (episode : Nat) :
    (held w episode).settle = held w episode := rfl

@[simp] theorem settle_freed (w : Window) (episode : Nat) (expired : Bool) :
    (freed w episode expired).settle = freed w episode expired := by
  cases expired <;> rfl

end Course

theorem Verdict.course {inRange : Bool} (hold : m.fused.holdsOver = true)
    (lost : m.sourceLost = true) (v : m.Verdict inRange m') : m'.course = m.course.settle := by
  unfold Course.settle
  cases v with
  | unusable unusable => simp [LockStatus.usable_of_holdsOver hold] at unusable
  | tracking locked => simp [locked, LockStatus.holdsOver] at hold
  | straying locked => simp [locked, LockStatus.holdsOver] at hold
  | recovered _ present => simp [lost] at present
  | holding _ _ inSpec owned =>
      rw [if_pos (show m.course.inSpec = true from inSpec)]
      rw [if_pos (show m.course.episode.isSome = true from owned)]
  | latched _ _ inSpec idle latch => simp [Monitor.course, inSpec, idle, latch, window?]
  | armed _ _ inSpec idle latch => simp [Monitor.course, inSpec, idle, latch, window?, arm]
  | spent _ _ spent => simp [Monitor.course, spent, window?]
  | kept _ present => simp [lost] at present

theorem decide_course (hold : m.fused.holdsOver = true) (lost : m.sourceLost = true)
    (window : m.window? = some w) : m.decide.1.course = m.course.settle :=
  Verdict.course (m := { m with decisions := m.decisions + 1 }) hold lost (decide_verdict window)

/-- What may happen during an outage next to the countdown of an episode: anything but a word from
that countdown, the return of the source, and an intervention from outside. -/
def Input.quiet (episode : Nat) : Input → Bool
  | .sample _ | .ingest _ => true
  | .notify source state => source != .gnss || state != .locked
  | .extrapolate other _ | .finish other _ => other != episode
  | .resolved _ | .bind _ | .activate | .beginStop | .teardown => false

theorem Prelude.course {input : Input} (quiet : input.quiet episode = true)
    (mine : ∀ e, m.episode = some e → e = episode) (lost : m.sourceLost = true)
    (p : Prelude m input m') : m'.course = m.course := by
  cases p with
  | @notify source state =>
      unfold hear
      dsimp only
      split
      · rename_i gnss
        have away : (state != .locked) = true := by simpa [Input.quiet, gnss] using quiet
        simp only [Monitor.course, trackGnss, away, lost, Bool.and_true]
        rfl
      · rfl
  | sample r => cases r <;> rfl
  | ingest r => cases r <;> rfl
  | finish owned => simp [Input.quiet, mine _ owned] at quiet

theorem step_course_of_quiet {input : Input} (quiet : input.quiet episode = true)
    (mine : ∀ e, m.episode = some e → e = episode) (lost : m.sourceLost = true)
    (window : m.window? = some w) (settled : m.course.settle = m.course)
    (hold : (m.step input).1.fused.holdsOver = true) : (m.step input).1.course = m.course := by
  have step := step_transition m input
  generalize (m.step input).1 = m' at step hold ⊢
  cases step with
  | unheard => rfl
  | resolved => nomatch quiet
  | bound => nomatch quiet
  | activated => nomatch quiet
  | ticked _ owned => simp [Input.quiet, mine _ owned] at quiet
  | concluded _ owned => simp [Input.quiet, mine _ owned] at quiet
  | stopped => nomatch quiet
  | tornDown => nomatch quiet
  | @decided _ m₁ p =>
      have same := p.course quiet mine lost
      rw [decide_fused] at hold
      have lost : m₁.sourceLost = true := (congrArg Course.sourceLost same).trans lost
      have window : m₁.window? = some w := (congrArg Course.window? same).trans window
      rw [decide_course hold lost window, same, settled]

theorem step_held {input : Input} (quiet : input.quiet episode = true)
    (hold : (m.step input).1.fused.holdsOver = true) (h : m.course = .held w episode) :
    (m.step input).1.course = .held w episode := by
  have owned : m.episode = some episode := congrArg Course.episode h
  have mine : ∀ e, m.episode = some e → e = episode := by
    intro e he
    simpa [owned, eq_comm] using he
  rw [← h]
  refine step_course_of_quiet quiet mine (congrArg Course.sourceLost h)
    (congrArg Course.window? h) ?_ hold
  rw [h, Course.settle_held]

theorem step_freed {input : Input} {expired : Bool} (quiet : input.quiet episode = true)
    (hold : (m.step input).1.fused.holdsOver = true) (h : m.course = .freed w episode expired) :
    (m.step input).1.course = .freed w episode expired := by
  have idle : m.episode = none := congrArg Course.episode h
  have mine : ∀ e, m.episode = some e → e = episode := by
    intro e he
    simp [idle] at he
  rw [← h]
  refine step_course_of_quiet quiet mine (congrArg Course.sourceLost h)
    (congrArg Course.window? h) ?_ hold
  rw [h, Course.settle_freed]

theorem notify_course {state : SyncState} (active : m.monitoring = true)
    (window : m.window? = some w) (hold : m.fused.holdsOver = true) (loss : state ≠ .locked)
    (news : m.lastSeen.get .gnss ≠ state) :
    (m.notify .gnss state).1.course = Course.settle { m.course with sourceLost := true } := by
  have away : (state != .locked) = true := by simpa using loss
  have lost : (m.hear .gnss state).sourceLost = true := away
  have heard : (m.hear .gnss state).course = { m.course with sourceLost := true } := by
    simp [Monitor.course, hear, trackGnss, window?, away]
  unfold notify
  rw [active, if_neg (by simp), if_neg news]
  rw [decide_course (m := m.hear .gnss state) hold lost window, heard]

theorem notify_course_of_loss {state : SyncState} (active : m.monitoring = true)
    (running : m.stopping = false) (window : m.window? = some w)
    (hold : m.fused.holdsOver = true) (inSpec : m.inSpec = true) (idle : m.episode = none)
    (latch : m.rangeExceeded = false) (loss : state ≠ .locked)
    (news : m.lastSeen.get .gnss ≠ state) :
    (m.notify .gnss state).1.course = .held w m.nextEpisode := by
  rw [notify_course active window hold loss news]
  simp [Course.settle, Course.held, course, running, window, inSpec, idle, latch]

@[simp] theorem extrapolate_course (m : Monitor) (episode : Nat) (offset : Int64) :
    (m.extrapolate episode offset).1.course = m.course := by
  unfold extrapolate
  split <;> rfl

theorem extrapolate_answer (owned : m.episode = some episode) (window : m.window? = some w)
    (offset : Int64) : (m.extrapolate episode offset).2 = w.contains offset := by
  simp [extrapolate, owns_iff.2 owned, window]

theorem finish_course {outcome : Countdown.Outcome} (h : m.course = .held w episode)
    (hold : m.fused.holdsOver = true) (ended : outcome ≠ .cancelled) :
    (m.finish episode outcome).1.course = .freed w episode (outcome == .expired) := by
  have owned : m.owns episode = true := owns_iff.2 (congrArg Course.episode h)
  have running : m.stopping = false := congrArg Course.stopping h
  have lost : m.sourceLost = true := congrArg Course.sourceLost h
  have window : m.window? = some w := congrArg Course.window? h
  simp only [finish, owned, if_true, conclude_stopping, running, Bool.false_eq_true, if_false]
  rw [decide_course (by rwa [conclude_fused]) (by rwa [conclude_sourceLost])
    (by rwa [conclude_window?])]
  cases outcome with
  | cancelled => exact absurd rfl ended
  | expired =>
      show Course.settle { m.course with episode := none, inSpec := false, state := .freeRun } = _
      rw [h]
      rfl
  | rangeExceeded =>
      show Course.settle { m.course with episode := none, rangeExceeded := true } = _
      rw [h]
      rfl

end DpllWatch.Monitor
