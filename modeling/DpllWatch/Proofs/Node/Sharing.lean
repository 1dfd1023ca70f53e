import DpllWatch.Proofs.Monitor.Teardown
import DpllWatch.Proofs.Node.Operations
import Mathlib.Data.List.Nodup

/-! Members that share a registry and a table of sources do not interfere: what happens to one of
them is the same as if the others were not there, as long as nobody fails. -/

namespace DpllWatch.Node

variable {σ : Type} {n : Node σ} {i queue : Nat} {m : Monitor}

theorem named_of_interfaces
    (interfaces : (n.members.map (·.monitor.settings.interface)).Nodup)
    (unwired : n.subscriptions = []) : n.Named where
  names := by
    have names : n.roster.map Prod.fst =
        (n.members.map (·.monitor.settings.interface)).map fun name => "dpll[" ++ name ++ "]" := by
      simp [roster, Monitor.id]
    rw [names]
    -- An interface stands between the same two texts in every name.
    refine List.Nodup.map (fun a b same => ?_) interfaces
    have chars := congrArg String.toList same
    simp only [String.toList_append, List.append_cancel_right_eq,
      List.append_cancel_left_eq] at chars
    exact String.toList_inj.1 chars
  subscriptions := by
    rw [unwired]
    exact fun _ member => absurd member List.not_mem_nil

theorem member_of_held (held : ∀ member ∈ n.members, member.released = false)
    (inside : i < n.roster.length) :
    ∃ m worker queue, n.members[i]? = some ⟨m, worker, queue, false⟩ := by
  rw [roster, List.length_map] at inside
  have own := held _ (List.getElem_mem inside)
  have found := List.getElem?_eq_getElem inside
  generalize n.members[i] = member at own found
  obtain ⟨m, worker, queue, _⟩ := member
  cases own
  exact ⟨m, worker, queue, found⟩

/-- A node whose only member is member `i`. What else it shares with its members may differ. -/
structure Isolates {σ' : Type} (n : Node σ) (i : Nat) (alone : Node σ') : Prop where
  members : alone.members = n.members[i]?.toList
  subscriptions : alone.subscriptions = []
  timing : alone.timing = n.timing

namespace Isolates

variable {σ' : Type} {alone : Node σ'} {worker : Option Worker}

theorem named (h : n.Isolates i alone) : alone.Named := by
  refine named_of_interfaces ?_ h.subscriptions
  rw [h.members]
  cases n.members[i]? <;> simp

theorem seats (h : n.Isolates i alone) (unwired : n.subscriptions = [])
    (member : n.members[i]? = some ⟨m, worker, queue, false⟩) :
    n.Seats i queue n.queues[queue]? (⟨n.timing, [], worker, []⟩ : Seat m) ∧
      alone.Seats 0 queue alone.queues[queue]? (⟨n.timing, [], worker, []⟩ : Seat m) := by
  have member' : alone.members[0]? = some ⟨m, worker, queue, false⟩ := by
    rw [h.members, member]
    rfl
  have shared := seats_of_members member
  have single := seats_of_members member'
  rw [unwired] at shared
  rw [h.subscriptions, h.timing] at single
  exact ⟨shared, single⟩

theorem done_iff (h : n.Isolates i alone) (unwired : n.subscriptions = [])
    (member : n.members[i]? = some ⟨m, worker, queue, false⟩) (ops : List Op) :
    (alone.performAll (ops.filterMap (Op.alone? i))).1 = true ↔
      (⟨n.timing, [], worker, []⟩ : Seat m).permitsAll (ops.filterMap (Op.alone? i)) = true := by
  have single := (h.seats unwired member).2
  refine ⟨fun done => ?_, fun permits => performAll_of_permits h.named fun k inside => ?_⟩
  · have own := (single.performAll h.named done).1
    rwa [Op.filterMap_alone?] at own
  · obtain rfl : k = 0 := by
      rw [roster, h.members, member] at inside
      simpa using inside
    refine ⟨queue, _, m, _, single, ?_⟩
    rwa [Op.filterMap_alone?]

end Isolates

/-- Members with different interfaces do not interfere in any run that comes to its end, and it does
if each member's own part of it does. Each member then comes out as it does from its own part alone,
whatever the others' table of sources, kernel and files hold: it has taken the same inputs, offered
the same reports and kept the same subscriptions, and a state change reaches it as long as it is
subscribed to the source. Where interfaces can name workers and settings give windows, every run
comes to its end. -/
theorem members_do_not_interfere {σ σ' : Type} {n : Node σ} {alone : Nat → Node σ'}
    (interfaces : (n.members.map (·.monitor.settings.interface)).Nodup)
    (unwired : n.subscriptions = []) (held : ∀ member ∈ n.members, member.released = false)
    (isolated : ∀ i, n.Isolates i (alone i)) (ops : List Op) :
    ((∀ member ∈ n.members, canName member.monitor.settings.interface = true ∧
        member.monitor.settings.window?.isSome = true) → (n.performAll ops).1 = true) ∧
      ((n.performAll ops).1 = true ↔ ∀ i < n.members.length,
        ((alone i).performAll (ops.filterMap (Op.alone? i))).1 = true) ∧
      ((n.performAll ops).1 = true → ∀ i m worker queue,
        n.members[i]? = some ⟨m, worker, queue, false⟩ →
        let shared := (n.performAll ops).2
        let single := ((alone i).performAll (ops.filterMap (Op.alone? i))).2
        ∃ (taken : List Monitor.Input) (worker' : Option Worker),
          shared.members[i]? = some ⟨(m.run taken).1, worker', queue, false⟩ ∧
          single.members[0]? = some ⟨(m.run taken).1, worker', queue, false⟩ ∧
          (n.Private i queue →
            shared.queues[queue]? = n.queues[queue]?.map (·.publishAll (m.run taken).2)) ∧
          single.queues[queue]? = (alone i).queues[queue]?.map (·.publishAll (m.run taken).2) ∧
          Subscriptions.ofMember shared.subscriptions i =
            Subscriptions.ofMember single.subscriptions 0 ∧
          ∀ source state, (shared.perform (.publish source state)).1 = true →
            (∃ t ∈ shared.subscriptions, t.topic = source ∧ t.target = .dependency i) →
              (shared.perform (.publish source state)).2.members[i]? =
                some ⟨((m.run taken).1.notify source state).1, worker', queue, false⟩) := by
  have named := named_of_interfaces interfaces unwired
  refine ⟨fun sound => performAll_of_permits named fun i inside => ?_,
    ⟨fun done i inside => ?_, fun done => performAll_of_permits named fun i inside => ?_⟩,
    fun done i m worker queue member => ?_⟩
  · obtain ⟨m, worker, queue, found⟩ := member_of_held held inside
    obtain ⟨nameable, window⟩ := sound _ (List.mem_of_getElem? found)
    exact ⟨queue, _, m, _, ((isolated i).seats unwired found).1,
      Seat.permitsAll_of_sound nameable window _ _⟩
  · obtain ⟨m, worker, queue, found⟩ :=
      member_of_held (i := i) held (by rwa [roster, List.length_map])
    have shared := ((isolated i).seats unwired found).1
    exact ((isolated i).done_iff unwired found ops).2 (shared.performAll named done).1
  · obtain ⟨m, worker, queue, found⟩ := member_of_held held inside
    rw [roster, List.length_map] at inside
    exact ⟨queue, _, m, _, ((isolated i).seats unwired found).1,
      ((isolated i).done_iff unwired found ops).1 (done i inside)⟩
  · intro shared single
    -- Both runs begin at one seat and are to it the same operations, so that they end at one seat.
    obtain ⟨seat, seat'⟩ := (isolated i).seats unwired member
    have permits := (seat.performAll named done).1
    have done' := ((isolated i).done_iff unwired member ops).2 permits
    have here := (seat.performAll named done).2
    have there := (seat'.performAll (isolated i).named done').2
    rw [Op.filterMap_alone?] at there
    generalize List.foldl Seat.perform _ _ = s at here there
    have kept : shared.roster = n.roster := performAll_roster named ops
    have kept' : single.roster = (alone i).roster := performAll_roster (isolated i).named _
    refine ⟨s.taken, s.worker, here.member, there.member, fun privately => ?_, ?_,
      here.registrations.trans there.registrations.symm, fun source state told depends => ?_⟩
    · rw [Private, ← kept] at privately
      exact here.reports privately
    · refine there.reports fun j name entry' => ?_
      rw [kept', roster, (isolated i).members, member] at entry'
      have inside := (List.getElem?_eq_some_iff.1 entry').1
      simpa using inside
    · rw [publish_eq_perform told]
      exact (publish_counts_once here.member depends state).1

def pair (m m' : Monitor) : Node Link.ScriptedKernel :=
  { Monitor.linked m with
    members := [⟨m, none, 0, false⟩, ⟨m', none, 1, false⟩]
    queues := [.bounded 8, .bounded 8] }

def oneOf (m m' : Monitor) (i : Nat) : Node Link.ScriptedKernel :=
  { pair m m' with
    members := (pair m m').members[i]?.toList
    sources := SourceStates.empty.register .gnss }

theorem isolates_oneOf (m m' : Monitor) (i : Nat) : (pair m m').Isolates i (oneOf m m' i) :=
  ⟨rfl, rfl, rfl⟩

def departure : List Op :=
  [.act 0 .subscribe, .act 1 .subscribe, .act 1 (.bind .standard), .act 0 (.bind .standard),
    .act 0 (.input (.resolved .sysfs)), .act 1 (.input (.resolved .sysfs)),
    .act 0 (.input .activate), .act 1 (.input .activate),
    .act 1 (.input (.sample ⟨some 3, some 3, some 40⟩)), .publish .gnss .locked,
    .act 0 .teardown, .publish .gnss .freeRun]

theorem members_do_not_interfere_departure :
    ∃ m m', Monitor.create (.standard 1 "ens1f0" [.gnss]) = .ok m ∧
      Monitor.create (.standard 2 "ens1f1" [.gnss]) = .ok m' ∧
      ((pair m m').performAll departure).1 = true ∧
      ((pair m m').performAll departure).2.members.map (·.monitor.sourceLost) = [false, true] ∧
      ∃ taken worker,
        ((pair m m').performAll departure).2.members[1]? =
          some ⟨(m'.run taken).1, worker, 1, false⟩ ∧
        ((oneOf m m' 1).performAll (departure.filterMap (Op.alone? 1))).2.members[0]? =
          some ⟨(m'.run taken).1, worker, 1, false⟩ ∧
        ((oneOf m m' 1).performAll (departure.filterMap (Op.alone? 1))).2.queues[1]? =
          some ((EventQueue.bounded 8).publishAll (m'.run taken).2) := by
  obtain ⟨m, m', created, created', interfaces, windows, lost⟩ :
      ∃ m m', Monitor.create (.standard 1 "ens1f0" [.gnss]) = .ok m ∧
        Monitor.create (.standard 2 "ens1f1" [.gnss]) = .ok m' ∧
        (pair m m').members.map (·.monitor.settings.interface) = ["ens1f0", "ens1f1"] ∧
        (pair m m').members.map (·.monitor.settings.window?.isSome) = [true, true] ∧
        ((pair m m').performAll departure).2.members.map (·.monitor.sourceLost) =
          [false, true] := ⟨_, _, rfl, rfl, rfl, rfl, rfl⟩
  have distinct : ((pair m m').members.map (·.monitor.settings.interface)).Nodup := by
    rw [interfaces]
    decide
  obtain ⟨sound, _, alike⟩ := members_do_not_interfere distinct rfl
    (by simp [pair]) (isolates_oneOf m m') departure
  have done := sound (by simp_all [pair, canName])
  obtain ⟨taken, worker, shared, single, _, reports, _⟩ := alike done 1 m' none 1 rfl
  exact ⟨m, m', created, created', done, lost, taken, worker, shared, single, reports⟩

def roundOfStarts : List Op :=
  [.act 0 (.input (.resolved .netlink)), .act 1 (.input (.resolved .sysfs)),
    .act 0 (.bind .standard), .act 1 (.bind .standard), .startAll]

theorem monitoring_of_launch (member : n.members[i]? = some ⟨m, none, queue, false⟩)
    (going : m.stopping = false) (present : m.backend ≠ .absent)
    (nameable : canName m.settings.interface = true) :
    (n.launch i).members[i]?.map (·.monitor.monitoring) = some true := by
  let s : Seat m := ⟨n.timing, [], none, Subscriptions.ofMember n.subscriptions i⟩
  have begins (worker : Worker) :
      ((s.hire (some worker)).input .activate).monitor.monitoring = true := by
    rw [Seat.monitor_input]
    change m.activate.2.monitoring = true
    simp [Monitor.activate, going, present]
  obtain ⟨worker, hired⟩ : ∃ worker, s.worker? = some worker := by
    have same : s.monitor = m := rfl
    rw [Seat.worker?, same, going, nameable]
    cases backend : m.backend with
    | absent => exact absurd backend present
    | sysfs | netlink => exact ⟨_, rfl⟩
  have launched := (seats_of_members member).launch.member
  rw [launched, Seat.launch, hired]
  exact congrArg some (begins worker)

theorem round_of_unnamed (m m' : Monitor) (going : m.stopping = false)
    (unnamed : canName m.settings.interface = false) :
    ((pair m m').performAll roundOfStarts).2.members[1]?.map (·.monitor.monitoring) =
      some m'.monitoring := by
  let n := ((pair m m').performAll roundOfStarts.dropLast).2
  have failed : n.fails 0 .launch = true := by
    change (!m.stopping && true && true && !canName m.settings.interface) = true
    rw [going, unnamed]
    rfl
  have ended : n.broadcast .monitoring Duty.onStart = (false, n.launch 0) := by
    change n.attempt Duty.onStart (_ :: _) = _
    rw [attempt]
    change (if n.fails 0 .launch then (false, n.launch 0) else _) = _
    rw [if_pos failed]
  change (n.broadcast .monitoring Duty.onStart).2.members[1]?.map _ = _
  rw [ended, (Confined.launch n 0).members 1 (by decide)]
  rfl

theorem round_of_nameable (m m' : Monitor) (going : m'.stopping = false)
    (nameable : canName m'.settings.interface = true) :
    ((oneOf m m' 1).performAll (roundOfStarts.filterMap (Op.alone? 1))).2.members[0]?.map
      (·.monitor.monitoring) = some true := by
  let n := ((oneOf m m' 1).performAll (roundOfStarts.dropLast.filterMap (Op.alone? 1))).2
  have ended : (n.broadcast .monitoring Duty.onStart).2 = n.launch 0 := by
    change (n.attempt Duty.onStart [_]).2 = _
    rw [attempt]
    split <;> rfl
  change (n.broadcast .monitoring Duty.onStart).2.members[0]?.map _ = _
  rw [ended]
  exact monitoring_of_launch rfl going (show Backend.sysfs ≠ .absent by decide) nameable

/-- The worker of the first monitor cannot be named after its interface, and the second monitor is
not started. Alone, it is. -/
theorem unnamed_worker_ends_round :
    ∃ m m', Monitor.create (.standard 1 "a\x00b" [.gnss]) = .ok m ∧
      Monitor.create (.standard 2 "ens1f1" [.gnss]) = .ok m' ∧
      ((pair m m').members.map (·.monitor.settings.interface)).Nodup ∧
      ((pair m m').performAll roundOfStarts).2.members[1]?.map (·.monitor.monitoring) =
        some false ∧
      ((oneOf m m' 1).performAll (roundOfStarts.filterMap (Op.alone? 1))).2.members[0]?.map
        (·.monitor.monitoring) = some true := by
  have unnamed : canName "a\x00b" = false := by simp [canName]
  have nameable : canName "ens1f1" = true := by simp [canName]
  refine ⟨_, _, rfl, rfl, ?_, round_of_unnamed _ _ rfl unnamed,
    round_of_nameable _ _ rfl nameable⟩
  change ["a\x00b", "ens1f1"].Nodup
  decide

end DpllWatch.Node
