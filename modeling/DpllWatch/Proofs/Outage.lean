import DpllWatch.Node
import DpllWatch.Proofs.Countdown
import DpllWatch.Proofs.Monitor.Course

/-! One outage from end to end. A monitor loses its source, and from then on its countdown and
everything else that reaches it take turns in any order. -/

namespace DpllWatch

/-- `progress` tells how far the countdown has come: it counts its ticks, then it has ended, and at
last its monitor has been told. -/
inductive Progress where
  | counting (elapsed : Nat)
  | ended (outcome : Countdown.Outcome)
  | told
deriving DecidableEq, Repr

structure Outage where
  monitor : Monitor
  progress : Progress

namespace Outage

/-- The countdown wakes or, once it has ended, reports so. Whatever else reaches the monitor comes
in between. -/
inductive Move where
  | hear (input : Monitor.Input)
  | wake
  | report
deriving DecidableEq, Repr

def Move.quiet (episode : Nat) : Move → Bool
  | .hear input => input.quiet episode
  | .wake | .report => true

variable {c : Countdown} {w : Window} {episode ticks : Nat} {moves : List Move} {o : Outage}

def step (c : Countdown) (episode : Nat) (o : Outage) : Move → Outage
  | .hear input => { o with monitor := (o.monitor.step input).1 }
  | .wake =>
    match o.progress with
    | .counting elapsed =>
      match c.wake (Node.countdownOwner episode) elapsed o.monitor with
      | (monitor, none) => ⟨monitor, .counting (elapsed + 1)⟩
      | (monitor, some outcome) => ⟨monitor, .ended outcome⟩
    | .ended _ | .told => o
  | .report =>
    match o.progress with
    | .ended outcome => ⟨(o.monitor.finish episode outcome).1, .told⟩
    | .counting _ | .told => o

def run (c : Countdown) (episode : Nat) (o : Outage) (moves : List Move) : Outage :=
  moves.foldl (step c episode) o

theorem run_replicate_wake (c : Countdown) (episode elapsed : Nat) (m : Monitor) :
    ∃ n, run c episode ⟨m, .counting elapsed⟩ (.replicate n .wake) =
      ⟨(c.runFrom (Node.countdownOwner episode) elapsed m).1,
        .ended (c.runFrom (Node.countdownOwner episode) elapsed m).2⟩ := by
  induction elapsed, m using Countdown.runFrom.induct c (Node.countdownOwner episode) with
  | case1 elapsed m m' outcome woken =>
      refine ⟨1, ?_⟩
      rw [Countdown.runFrom_of_ended woken]
      simp [run, step, woken]
  | case2 elapsed m m' woken ih =>
      obtain ⟨n, ih⟩ := ih
      refine ⟨n + 1, ?_⟩
      rw [Countdown.runFrom_of_going woken, ← ih]
      simp [run, step, woken, List.replicate_succ]

def start (m : Monitor) (state : SyncState) : Outage where
  monitor := (m.notify .gnss state).1
  progress := .counting 0

def Reported (ticks : Nat) (moves : List Move) : Prop :=
  ∃ before after, moves = before ++ .report :: after ∧ ticks ≤ before.count .wake

theorem reported_concat (ticks : Nat) (moves : List Move) (move : Move) :
    Reported ticks (moves ++ [move]) ↔
      Reported ticks moves ∨ move = .report ∧ ticks ≤ moves.count .wake := by
  constructor
  · rintro ⟨before, after, split, late⟩
    rcases List.eq_nil_or_concat after with rfl | ⟨rest, last, rfl⟩
    · obtain ⟨rfl, same⟩ := List.append_inj' split rfl
      exact .inr ⟨List.singleton_inj.1 same, late⟩
    · have split : moves ++ [move] = (before ++ .report :: rest) ++ [last] := by simpa using split
      obtain ⟨rfl, -⟩ := List.append_inj' split rfl
      exact .inl ⟨before, rest, rfl, late⟩
  · rintro (⟨before, after, rfl, late⟩ | ⟨rfl, late⟩)
    · exact ⟨before, after ++ [move], by simp, late⟩
    · exact ⟨moves, [], rfl, late⟩

theorem not_reported_of_lt (early : moves.count .wake < ticks) : ¬Reported ticks moves := by
  rintro ⟨before, after, rfl, late⟩
  have : before.count .wake ≤ (before ++ .report :: after).count .wake := by simp
  omega

/-- What holds after the given moves. Even an empty timer takes one wake to end. -/
inductive Stage (c : Countdown) (w : Window) (episode : Nat) (moves : List Move) : Outage → Prop
  where
  | counting {m : Monitor} {elapsed : Nat} : m.course = .held w episode →
      moves.count .wake = elapsed → elapsed < max 1 (c.endTick w.contains) →
      Stage c w episode moves ⟨m, .counting elapsed⟩
  | ended {m : Monitor} : m.course = .held w episode →
      max 1 (c.endTick w.contains) ≤ moves.count .wake →
      ¬Reported (max 1 (c.endTick w.contains)) moves →
      Stage c w episode moves ⟨m, .ended (c.endOutcome w.contains)⟩
  | told {m : Monitor} : m.course = .freed w episode (c.endOutcome w.contains == .expired) →
      Reported (max 1 (c.endTick w.contains)) moves →
      Stage c w episode moves ⟨m, .told⟩

theorem Stage.hear {input : Monitor.Input} (quiet : input.quiet episode = true)
    (hold : (o.monitor.step input).1.fused.holdsOver = true) (h : Stage c w episode moves o) :
    Stage c w episode (moves ++ [.hear input]) (o.step c episode (.hear input)) := by
  have wakes : (moves ++ [Move.hear input]).count .wake = moves.count .wake := by simp
  have reports : Reported (max 1 (c.endTick w.contains)) (moves ++ [.hear input]) ↔
      Reported (max 1 (c.endTick w.contains)) moves := by simp [reported_concat]
  cases h with
  | counting held elapsed early =>
      exact .counting (Monitor.step_held quiet hold held) (wakes.trans elapsed) early
  | ended held late unreported =>
      exact .ended (Monitor.step_held quiet hold held) (wakes ▸ late) (mt reports.1 unreported)
  | told freed reported =>
      exact .told (Monitor.step_freed quiet hold freed) (reports.2 reported)

theorem Stage.wake (h : Stage c w episode moves o) :
    Stage c w episode (moves ++ [.wake]) (o.step c episode .wake) := by
  have wakes : (moves ++ [Move.wake]).count .wake = moves.count .wake + 1 := by simp
  have reports : Reported (max 1 (c.endTick w.contains)) (moves ++ [.wake]) ↔
      Reported (max 1 (c.endTick w.contains)) moves := by simp [reported_concat]
  cases h with
  | @counting m elapsed held count early =>
      have owned : m.episode = some episode := congrArg Monitor.Course.episode held
      have window : m.window? = some w := congrArg Monitor.Course.window? held
      have going : (Node.countdownOwner episode).cancelled m = false := by
        simp [Node.countdownOwner, Monitor.owns_iff.2 owned]
      have outcome := Countdown.wake_outcome (c := c) going
        (Monitor.extrapolate_answer owned window) early
      -- A wake may write the offset, which no course holds.
      have course : (c.wake (Node.countdownOwner episode) elapsed m).1.course =
          .held w episode := by
        rcases c.wake_owner (Node.countdownOwner episode) elapsed m with h | ⟨_, h⟩
        · rw [h, held]
        · rw [h]
          exact (Monitor.extrapolate_course _ _ _).trans held
      simp only [step]
      generalize c.wake (Node.countdownOwner episode) elapsed m = woken at outcome course ⊢
      obtain ⟨m', answer⟩ := woken
      dsimp only at outcome course ⊢
      subst outcome
      by_cases goes : elapsed + 1 < max 1 (c.endTick w.contains)
      · rw [if_pos goes]
        exact .counting course (by omega) goes
      · rw [if_neg goes]
        exact .ended course (by omega) (mt reports.1 (not_reported_of_lt (count ▸ early)))
  | ended held late unreported => exact .ended held (by omega) (mt reports.1 unreported)
  | told freed reported => exact .told freed (reports.2 reported)

theorem Stage.report (hold : o.monitor.fused.holdsOver = true) (h : Stage c w episode moves o) :
    Stage c w episode (moves ++ [.report]) (o.step c episode .report) := by
  have wakes : (moves ++ [Move.report]).count .wake = moves.count .wake := by simp
  cases h with
  | counting held elapsed early => exact .counting held (wakes.trans elapsed) early
  | ended held late =>
      have ended : c.endOutcome w.contains ≠ .cancelled := by
        unfold Countdown.endOutcome
        split <;> nofun
      apply Stage.told
      · exact Monitor.finish_course held hold ended
      · exact (reported_concat _ _ _).2 (.inr ⟨rfl, late⟩)
  | told freed reported => exact .told freed ((reported_concat _ _ _).2 (.inl reported))

theorem Stage.step {move : Move} (quiet : move.quiet episode = true)
    (hold : o.monitor.fused.holdsOver = true)
    (holds : (o.step c episode move).monitor.fused.holdsOver = true)
    (h : Stage c w episode moves o) :
    Stage c w episode (moves ++ [move]) (o.step c episode move) := by
  cases move with
  | hear input => exact h.hear quiet holds
  | wake => exact h.wake
  | report => exact h.report hold

theorem Stage.run {later : List Move} (h : Stage c w episode moves o)
    (quiet : ∀ move ∈ later, move.quiet episode = true)
    (steady : ∀ first, first <+: later → (o.run c episode first).monitor.fused.holdsOver = true) :
    Stage c w episode (moves ++ later) (o.run c episode later) := by
  -- The moves made before grow by the first of those that are left.
  induction later generalizing moves o with
  | nil => simpa [Outage.run] using h
  | cons move rest ih =>
      have here := steady [] List.nil_prefix
      have next := steady [move] (List.prefix_append _ _)
      rw [List.append_cons]
      apply ih (h.step (quiet move List.mem_cons_self) here next)
      · intro other h
        exact quiet other (List.mem_cons_of_mem _ h)
      · intro first h
        exact steady (move :: first) (List.cons_prefix_cons.2 ⟨rfl, h⟩)

theorem Stage.held (h : Stage c w episode moves o)
    (unreported : ¬Reported (max 1 (c.endTick w.contains)) moves) :
    o.monitor.course = .held w episode := by
  cases h with
  | counting held => exact held
  | ended held => exact held
  | told _ reported => exact absurd reported unreported

theorem Stage.freed (h : Stage c w episode moves o)
    (reported : Reported (max 1 (c.endTick w.contains)) moves) :
    o.monitor.course = .freed w episode (c.endOutcome w.contains == .expired) := by
  cases h with
  | counting _ elapsed early => exact absurd reported (not_reported_of_lt (elapsed ▸ early))
  | ended _ _ unreported => exact absurd reported unreported
  | told freed => exact freed

/-- A monitor that monitors, is in spec and owns no countdown loses its source, and its clock could
hold over from then on. One episode is started. The monitor holds over up to the report of the
countdown that follows its last tick, and runs free from there on; if the timer has fired the clock
is out of spec, and otherwise the excess is remembered. -/
theorem one_episode {m : Monitor} (timing : Timing) (state : SyncState)
    (active : m.monitoring = true) (running : m.stopping = false) (window : m.window? = some w)
    (hold : m.fused = .lockedHoldoverAcquired ∨ m.fused = .holdover) (inSpec : m.inSpec = true)
    (idle : m.episode = none) (latch : m.rangeExceeded = false) (loss : state ≠ .locked)
    (news : m.lastSeen.get .gnss ≠ state)
    (quiet : ∀ move ∈ moves, move.quiet m.nextEpisode = true)
    (steady : ∀ first, first <+: moves →
      ((start m state).run (.ofDrift timing m.drift) m.nextEpisode first).monitor.fused.holdsOver =
        true) :
    let c := Countdown.ofDrift timing m.drift
    let last := c.endTick w.contains
    let timer := min m.drift.timer.toNat (UInt32.size - 1)
    let m' := ((start m state).run c m.nextEpisode moves).monitor
    m'.nextEpisode = m.nextEpisode + 1 ∧
      (¬Reported (max 1 last) moves →
        m'.state = .holdover ∧ m'.episode = some m.nextEpisode ∧ m'.inSpec = true ∧
          m'.rangeExceeded = false) ∧
      (Reported (max 1 last) moves →
        m'.state = .freeRun ∧ m'.episode = none ∧ (m'.inSpec = false ↔ last = timer) ∧
          (m'.rangeExceeded = true ↔ last < timer)) := by
  intro c last timer m'
  have fires : c.timer.toNat = timer := Countdown.toNat_clampTimer _
  have began : (start m state).monitor.course = .held w m.nextEpisode :=
    Monitor.notify_course_of_loss active running window (LockStatus.holdsOver_iff.2 hold) inSpec
      idle latch loss news
  have first : Stage c w m.nextEpisode [] (start m state) :=
    .counting began List.count_nil (by omega)
  have stage : Stage c w m.nextEpisode moves ((start m state).run c m.nextEpisode moves) :=
    first.run quiet steady
  by_cases reported : Reported (max 1 last) moves
  · have freed := stage.freed reported
    have bound : last ≤ timer := fires ▸ c.endTick_le w.contains
    have expired : (c.endOutcome w.contains == .expired) = decide (last = timer) := by
      rw [Countdown.endOutcome, fires]
      split <;> simp_all [last]
    rw [expired] at freed
    have spent : m'.inSpec = !decide (last = timer) := congrArg Monitor.Course.inSpec freed
    have exceeded : m'.rangeExceeded = !decide (last = timer) :=
      congrArg Monitor.Course.rangeExceeded freed
    have early : last ≠ timer ↔ last < timer := by omega
    refine ⟨congrArg Monitor.Course.nextEpisode freed, (absurd reported ·), ?_⟩
    intro _
    refine ⟨congrArg Monitor.Course.state freed, congrArg Monitor.Course.episode freed, ?_, ?_⟩
    · simp [spent]
    · simp [exceeded, early]
  · have held := stage.held reported
    refine ⟨congrArg Monitor.Course.nextEpisode held, ?_, (absurd · reported)⟩
    intro _
    exact ⟨congrArg Monitor.Course.state held, congrArg Monitor.Course.episode held,
      congrArg Monitor.Course.inSpec held, congrArg Monitor.Course.rangeExceeded held⟩

def brief : List Move :=
  [.hear (.sample ⟨some 3, some 3, some 500⟩), .wake, .hear (.notify .gnss .holdover), .report,
    .hear (.notify .ptp4l .locked), .hear (.sample ⟨some 3, some 3, some 20⟩)]

theorem one_episode_brief :
    let m := ((Monitor.fresh (.standard 1 "ens1f0" [.gnss]) ⟨20, 1⟩).run [.bind .standard,
      .resolved .sysfs, .activate, .sample ⟨some 3, some 3, some 40⟩]).1
    let m' := ((start m .freeRun).run (.ofDrift .standard m.drift) m.nextEpisode brief).monitor
    m.state = .locked ∧ m.fused = .lockedHoldoverAcquired ∧ m'.nextEpisode = m.nextEpisode + 1 ∧
      m'.state = .freeRun ∧ m'.episode = none ∧ m'.inSpec = false := by
  intro m m'
  have steady : (List.range 7).all (fun n => ((start m .freeRun).run (.ofDrift .standard m.drift)
      m.nextEpisode (brief.take n)).monitor.fused.holdsOver) = true := by decide +kernel
  have quiet : brief.all (·.quiet m.nextEpisode) = true := rfl
  have outage := one_episode .standard .freeRun (w := .standard) (m := m) rfl rfl rfl (.inl rfl)
    rfl rfl rfl nofun nofun (List.all_eq_true.1 quiet) ?_
  · obtain ⟨next, -, freed⟩ := outage
    obtain ⟨published, idle, spent, -⟩ := freed ⟨brief.take 3, brief.drop 4, rfl, by decide⟩
    exact ⟨rfl, rfl, next, published, idle, spent.2 rfl⟩
  · intro first h
    have short : first.length < 7 := Nat.lt_succ_of_le h.length_le
    rw [List.prefix_iff_eq_take.1 h]
    exact List.all_eq_true.1 steady _ (List.mem_range.2 short)

end Outage

end DpllWatch
