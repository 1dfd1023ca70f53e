import DpllWatch.Proofs.Node.Seat

/-! Deliveries. What is delivered to all subscribers reaches each member through its own
subscriptions, and a state change that is delivered to a member several times counts once. -/

namespace DpllWatch

def Duty.onPublish (source : Source) (state : SyncState) : Duty → Option Act
  | dependency => some (.notify source state)
  | activation => none

def Duty.onStart : Duty → Option Act
  | dependency => none
  | activation => some .launch

namespace Seat

variable {m : Monitor}

def heed (s : Seat m) (asked : Option Act) : Seat m := (asked.map s.act).getD s

def deliver (s : Seat m) (react : Duty → Option Act) (targets : Subscriptions Duty) : Seat m :=
  targets.foldl (fun s t => s.heed (react t.target)) s

theorem notify_monitor (s : Seat m) (source : Source) (state : SyncState) :
    (s.notify source state).monitor = (s.monitor.step (.notify source state)).1 ∧
      (s.notify source state).offered =
        s.offered ++ (s.monitor.step (.notify source state)).2 := by
  rw [notify]
  split
  · exact ⟨monitor_input .., offered_input ..⟩
  · next idle =>
    rw [Monitor.notify_of_repeated (.inl (by simpa using idle))]
    exact ⟨rfl, (List.append_nil _).symm⟩

theorem deliver_of_repeated (s : Seat m) (source : Source) (state : SyncState)
    (targets : Subscriptions Duty)
    (repeated : s.monitor.monitoring = false ∨ s.monitor.lastSeen.get source = state) :
    (s.deliver (Duty.onPublish source state) targets).monitor = s.monitor ∧
      (s.deliver (Duty.onPublish source state) targets).offered = s.offered := by
  induction targets generalizing s with
  | nil => exact ⟨rfl, rfl⟩
  | cons t rest ih =>
      cases duty : t.target with
      | activation =>
          simp only [deliver, List.foldl_cons, duty, Duty.onPublish]
          exact ih s repeated
      | dependency =>
          have told := s.notify_monitor source state
          rw [Monitor.notify_of_repeated repeated, List.append_nil] at told
          have later := ih (s.notify source state) (by rwa [told.1])
          simp only [deliver, List.foldl_cons, duty, Duty.onPublish]
          exact ⟨later.1.trans told.1, later.2.trans told.2⟩

theorem deliver_of_dependency (s : Seat m) (source : Source) (state : SyncState)
    {targets : Subscriptions Duty} (depends : ∃ t ∈ targets, t.target = .dependency) :
    (s.deliver (Duty.onPublish source state) targets).monitor =
        (s.monitor.step (.notify source state)).1 ∧
      (s.deliver (Duty.onPublish source state) targets).offered =
        s.offered ++ (s.monitor.step (.notify source state)).2 := by
  induction targets with
  | nil => simp at depends
  | cons t rest ih =>
      cases duty : t.target with
      | activation =>
          simp only [deliver, List.foldl_cons, duty, Duty.onPublish]
          refine ih ?_
          simpa [duty] using depends
      | dependency =>
          -- The step is made here; to the subscriptions after this one the state is nothing new.
          have told := s.notify_monitor source state
          have repeated := s.monitor.repeated_of_notified source state
          rw [← told.1] at repeated
          have later := (s.notify source state).deliver_of_repeated source state rest repeated
          simp only [deliver, List.foldl_cons, duty, Duty.onPublish]
          exact ⟨later.1.trans told.1, later.2.trans told.2⟩

theorem deliver_worker (s : Seat m) (source : Source) (state : SyncState)
    (targets : Subscriptions Duty) :
    (s.deliver (Duty.onPublish source state) targets).worker = s.worker := by
  induction targets generalizing s with
  | nil => rfl
  | cons t rest ih =>
      refine (ih _).trans ?_
      dsimp only
      cases t.target with
      | activation => rfl
      | dependency =>
          change (s.notify source state).worker = s.worker
          rw [notify]
          split <;> rfl

end Seat

namespace Node

variable {σ : Type} {n : Node σ} {i queue : Nat} {m : Monitor}
  {initial : Option (EventQueue Report)} {s : Seat m}

def heed (n : Node σ) (i : Nat) (asked : Option Act) : Node σ := (asked.map (n.act i)).getD n

def deliver (n : Node σ) (react : Duty → Option Act) (targets : Subscriptions Role) : Node σ :=
  targets.foldl (fun n t => n.heed t.target.member (react t.target.duty)) n

theorem publish_eq_deliver (n : Node σ) (source : Source) (state : SyncState) :
    (n.publish source state).2 =
      n.deliver (Duty.onPublish source state) (n.subscriptions.matching source) := by
  simp only [publish, deliver]
  congr
  funext n t
  cases t.target <;> rfl

def Confines (σ : Type) (react : Duty → Option Act) : Prop :=
  ∀ duty a, react duty = some a → ∀ (n : Node σ) j, n.Confined j (n.act j a)

theorem confines_onPublish (source : Source) (state : SyncState) :
    Confines σ (Duty.onPublish source state) := by
  intro duty a acts n j
  cases duty with
  | activation => cases acts
  | dependency =>
      cases acts
      exact Confined.notify n j source state

theorem confines_onStart : Confines σ Duty.onStart := by
  intro duty a acts n j
  cases duty with
  | dependency => cases acts
  | activation =>
      cases acts
      exact Confined.launch n j

theorem Confines.heed {react : Duty → Option Act} (confined : Confines σ react) (n : Node σ)
    (j : Nat) (duty : Duty) : n.Confined j (n.heed j (react duty)) := by
  cases asked : react duty with
  | none => exact Confined.refl n j
  | some a => exact confined duty a asked n j

theorem deliver_keeps {react : Duty → Option Act} (confined : Confines σ react) (n : Node σ)
    (targets : Subscriptions Role) :
    (n.deliver react targets).roster = n.roster ∧
      (n.Named → (n.deliver react targets).Named) := by
  induction targets generalizing n with
  | nil => exact ⟨rfl, id⟩
  | cons t rest ih =>
      have step := confined.heed n t.target.member t.target.duty
      have later := ih (n.heed t.target.member (react t.target.duty))
      exact ⟨later.1.trans step.roster, later.2 ∘ step.named⟩

theorem Seats.heed (h : n.Seats i queue initial s) (asked : Option Act) :
    (n.heed i asked).Seats i queue initial (s.heed asked) := by
  cases asked with
  | none => exact h
  | some a => exact h.act a

theorem Seats.deliver (h : n.Seats i queue initial s) {react : Duty → Option Act}
    (confined : Confines σ react) (targets : Subscriptions Role) :
    (n.deliver react targets).Seats i queue initial (s.deliver react (targets.ofMember i)) := by
  induction targets generalizing n s with
  | nil => exact h
  | cons t rest ih =>
      rw [Subscriptions.ofMember_cons]
      split
      · next own =>
        subst own
        exact ih (h.heed (react t.target.duty))
      · next other =>
        exact ih ((confined.heed n t.target.member t.target.duty).seats (Ne.symm other) h)

theorem deliver_counts_once {worker : Option Worker}
    (member : n.members[i]? = some ⟨m, worker, queue, false⟩) (source : Source)
    (state : SyncState) {targets : Subscriptions Role}
    (depends : ∃ t ∈ targets, t.target = .dependency i) :
    (n.deliver (Duty.onPublish source state) targets).members[i]? =
        some ⟨(m.step (.notify source state)).1, worker, queue, false⟩ ∧
      (n.Private i queue → (n.deliver (Duty.onPublish source state) targets).queues[queue]? =
        n.queues[queue]?.map (·.publishAll (m.step (.notify source state)).2)) := by
  have confined := confines_onPublish (σ := σ) source state
  have own : ∃ t ∈ Subscriptions.ofMember targets i, t.target = .dependency := by
    obtain ⟨t, told, target⟩ := depends
    exact ⟨⟨t.topic, t.id, .dependency⟩,
      List.mem_filterMap.2 ⟨t, told, by simp [target, Role.member, Role.duty]⟩, rfl⟩
  have seats := (seats_of_members member).deliver confined targets
  obtain ⟨monitor, offered⟩ := Seat.deliver_of_dependency
    ⟨n.timing, [], worker, Subscriptions.ofMember n.subscriptions i⟩ source state own
  refine ⟨?_, fun alone => ?_⟩
  · rw [seats.member, monitor, Seat.deliver_worker]
    rfl
  · rw [Private, ← (deliver_keeps confined n targets).1] at alone
    rw [seats.reports alone, offered]
    rfl

theorem publish_counts_once {worker : Option Worker}
    (member : n.members[i]? = some ⟨m, worker, queue, false⟩) {source : Source}
    (depends : ∃ t ∈ n.subscriptions, t.topic = source ∧ t.target = .dependency i)
    (state : SyncState) :
    (n.publish source state).2.members[i]? =
        some ⟨(m.step (.notify source state)).1, worker, queue, false⟩ ∧
      (n.Private i queue → (n.publish source state).2.queues[queue]? =
        n.queues[queue]?.map (·.publishAll (m.step (.notify source state)).2)) := by
  obtain ⟨t, subscribed, topic, target⟩ := depends
  have told : t ∈ n.subscriptions.matching source :=
    List.mem_filter.2 ⟨subscribed, by simp [topic]⟩
  rw [publish_eq_deliver]
  exact deliver_counts_once member source state ⟨t, told, target⟩

end Node

namespace Monitor

/-- From its creation on, a monitor is indifferent to notifications that come before monitoring
begins or repeat what the source told last: a run goes on without them as it does with them. Any
other notification makes one decision, however many subscriptions a delivery brings it through. The
source is lost if the GNSS receiver has reported a change and did not report the lock last. -/
theorem repeats_leave_no_trace {settings : Settings} {m : Monitor}
    (created : create settings = .ok m) (before : List Input) (source : Source)
    (state : SyncState) :
    let now := (m.run before).1
    (now.monitoring = false ∨ m.lastTold source before = state →
        ∀ after, m.run (before ++ .notify source state :: after) = m.run (before ++ after)) ∧
      (now.monitoring = true → m.lastTold source before ≠ state →
        (m.run (before ++ [.notify source state])).1.decisions = now.decisions + 1) ∧
      (∀ (σ : Type) (n : Node σ) (i queue : Nat) (worker : Option Worker)
        (targets : Subscriptions Role), n.members[i]? = some ⟨now, worker, queue, false⟩ →
        (∃ t ∈ targets, t.target = .dependency i) →
          (n.deliver (Duty.onPublish source state) targets).members[i]? =
              some ⟨(m.run (before ++ [.notify source state])).1, worker, queue, false⟩ ∧
            (n.Private i queue →
              (n.deliver (Duty.onPublish source state) targets).queues[queue]? =
                n.queues[queue]?.map (·.publishAll (now.step (.notify source state)).2))) ∧
      (now.sourceLost = true ↔
        (∃ t ∈ m.history before, t.changes .gnss = true) ∧ m.lastTold .gnss before ≠ .locked) := by
  intro now
  have told := lastSeen_of_created created before source
  refine ⟨fun repeated after => ?_, fun active news => ?_,
    fun σ n i queue worker targets member depends => ?_, sourceLost_of_created created before⟩
  · rw [← told] at repeated
    rw [run_append, run_append, run_cons, notify_of_repeated repeated]
    rfl
  · rw [← told] at news
    obtain ⟨_, _, _, _, heard⟩ := now.hear_frame source state
    rw [run_append, run_cons, notify_of_change active news]
    dsimp only [run]
    rw [decide_decisions, heard]
  · rw [run_append]
    exact Node.deliver_counts_once member source state depends

def hearsay : List Input :=
  [.bind .standard, .resolved .sysfs, .notify .gnss .locked, .activate,
    .sample ⟨some 3, some 3, some 40⟩, .notify .gnss .freeRun, .sample ⟨some 3, some 3, some 30⟩]

theorem repeats_leave_no_trace_hearsay :
    ∃ m, create (.standard 1 "ens1f0" [.gnss]) = .ok m ∧
      (∀ after, m.run (hearsay ++ .notify .gnss .freeRun :: after) = m.run (hearsay ++ after)) ∧
      (m.run (hearsay ++ [.notify .gnss .locked])).1.decisions =
        (m.run hearsay).1.decisions + 1 ∧
      (m.run hearsay).1.sourceLost = true ∧ (∃ t ∈ m.history hearsay, t.changes .gnss = true) ∧
      m.lastTold .gnss hearsay ≠ .locked := by
  obtain ⟨m, created, active, last, lost⟩ : ∃ m, create (.standard 1 "ens1f0" [.gnss]) = .ok m ∧
      (m.run hearsay).1.monitoring = true ∧ m.lastTold .gnss hearsay = .freeRun ∧
      (m.run hearsay).1.sourceLost = true := ⟨_, rfl, rfl, rfl, rfl⟩
  have again := repeats_leave_no_trace created hearsay .gnss .freeRun
  have back := repeats_leave_no_trace created hearsay .gnss .locked
  exact ⟨m, created, again.1 (.inr last), back.2.1 active (by rw [last]; decide), lost,
    again.2.2.2.1 lost⟩

end Monitor

end DpllWatch
