import DpllWatch.Proofs.Monitor.Repeats
import DpllWatch.Proofs.Node.Confined

/-! What a node is to one of its members. A member's seat holds all that decides what happens to the
member: its monitor, its worker and its own subscriptions. What the members share decides
nothing. -/

namespace DpllWatch

/-- A member's own part of a node. The monitor is known by what it was at the beginning and by the
inputs that it has taken since. -/
structure Seat (origin : Monitor) where
  timing : Timing
  taken : List Monitor.Input
  worker : Option Worker
  registrations : Subscriptions Duty

namespace Seat

variable {m : Monitor}

def monitor (s : Seat m) : Monitor := (m.run s.taken).1

def offered (s : Seat m) : List Report := (m.run s.taken).2

def input (s : Seat m) (input : Monitor.Input) : Seat m := { s with taken := s.taken ++ [input] }

@[simp] theorem monitor_input (s : Seat m) (x : Monitor.Input) :
    (s.input x).monitor = (s.monitor.step x).1 := by
  simp only [monitor, input, Monitor.run_append]
  rfl

@[simp] theorem offered_input (s : Seat m) (x : Monitor.Input) :
    (s.input x).offered = s.offered ++ (s.monitor.step x).2 := by
  simp only [offered, monitor, input, Monitor.run_append, Monitor.run, List.append_nil]

def hire (s : Seat m) (worker : Option Worker) : Seat m := { s with worker := worker }

def enroll (s : Seat m) (registrations : Subscriptions Duty) : Seat m :=
  { s with registrations := registrations }

def subscribe (s : Seat m) : Seat m :=
  s.enroll (s.registrations ++
    s.monitor.settings.dependsOn.map fun source => ⟨source, s.monitor.id, .dependency⟩)

def bind (s : Seat m) (profile : Profile) : Seat m :=
  (s.input (.bind profile)).enroll
    (s.registrations ++ [⟨.monitoring, s.monitor.id, .activation⟩])

def worker? (s : Seat m) : Option Worker :=
  if s.monitor.stopping then none
  else if s.worker.isSome then none
  else if !Node.canName s.monitor.settings.interface then none
  else
    match s.monitor.backend with
    | .absent => none
    | .sysfs => some .files
    | .netlink => some (.link (.start (Node.schedule s.timing)))

def launch (s : Seat m) : Seat m :=
  match s.worker? with
  | none => s
  | some worker => (s.hire (some worker)).input .activate

def notify (s : Seat m) (source : Source) (state : SyncState) : Seat m :=
  if s.monitor.monitoring then s.input (.notify source state) else s

def teardown (s : Seat m) : Seat m :=
  if s.monitor.tornDown then s.input .teardown
  else
    (s.input .teardown).enroll (s.registrations.unregisterAll
      (s.monitor.settings.dependsOn ++ [.monitoring]) s.monitor.id)

def effect (s : Seat m) : Link.Effect → Seat m
  | .ingest devices => s.input (.ingest devices)
  | .teardown => s.teardown
  | .close _ | .wait _ => s

def move (s : Seat m) (move : Link.Move) : Seat m :=
  match s.worker with
  | some (.link l) =>
    match l.step move with
    | some (l, effects) => effects.foldl effect (s.hire (some (.link l)))
    | none => s
  | _ => s

def act (s : Seat m) : Act → Seat m
  | .subscribe => s.subscribe
  | .bind profile => s.bind profile
  | .launch => s.launch
  | .notify source state => s.notify source state
  | .input x => s.input x
  | .move m => s.move m
  | .retire => s.hire none
  | .teardown => s.teardown

end Seat

namespace Node

variable {σ : Type} {n n' : Node σ} {i j queue : Nat} {m : Monitor}
  {initial : Option (EventQueue Report)} {s : Seat m}

def Private (n : Node σ) (i : Nat) (queue : Nat) : Prop :=
  ∀ j name, n.roster[j]? = some (name, queue) → j = i

/-- Member `i` has the seat. Its owner holds it, and if no other member offers reports to its queue,
the queue has got what the monitor has offered, on top of what was there at the start. -/
structure Seats (n : Node σ) (i queue : Nat) (initial : Option (EventQueue Report))
    (s : Seat m) : Prop where
  timing : n.timing = s.timing
  member : n.members[i]? = some ⟨s.monitor, s.worker, queue, false⟩
  reports : n.Private i queue → n.queues[queue]? = initial.map (·.publishAll s.offered)
  registrations : Subscriptions.ofMember n.subscriptions i = s.registrations

theorem seats_of_members {worker : Option Worker}
    (member : n.members[i]? = some ⟨m, worker, queue, false⟩) :
    n.Seats i queue n.queues[queue]?
      (⟨n.timing, [], worker, Subscriptions.ofMember n.subscriptions i⟩ : Seat m) where
  timing := rfl
  member := member
  reports _ := by cases n.queues[queue]? <;> rfl
  registrations := rfl

theorem Confined.seats (h : n.Confined j n') (other : i ≠ j) (seats : n.Seats i queue initial s) :
    n'.Seats i queue initial s where
  timing := h.timing.trans seats.timing
  member := (h.members i other).trans seats.member
  reports alone := by
    rw [Private, h.roster] at alone
    rw [h.queues queue fun name entry => other (alone j name entry).symm, seats.reports alone]
  registrations := (h.registrations i other).trans seats.registrations

namespace Seats

theorem living? (h : n.Seats i queue initial s) :
    n.living? i = some ⟨s.monitor, s.worker, queue, false⟩ := by
  simp [Node.living?, h.member, Member.isAlive]

theorem aside (h : n.Seats i queue initial s) (sources : SourceStates) (kernel : σ)
    (crashed : Bool) :
    Seats { n with sources := sources, kernel := kernel, crashed := crashed } i queue initial s :=
  ⟨h.timing, h.member, h.reports, h.registrations⟩

theorem input (h : n.Seats i queue initial s) (x : Monitor.Input) :
    (n.input i x).Seats i queue initial (s.input x) := by
  have roster := (Confined.input n i x).roster
  rw [Node.input, h.living?] at roster ⊢
  refine ⟨h.timing, ?_, fun alone => ?_, h.registrations⟩
  · simp [offer, modifyMember, h.member]
    rfl
  · rw [Private, roster] at alone
    simp [offer, modifyMember, h.reports alone, EventQueue.publishAll]
    rfl

theorem hire (h : n.Seats i queue initial s) (worker : Option Worker) :
    (n.modifyMember i ({ · with worker := worker })).Seats i queue initial (s.hire worker) := by
  have roster := (Confined.hire n i worker).roster
  refine ⟨h.timing, ?_, fun alone => ?_, h.registrations⟩
  · simp [modifyMember, h.member]
    exact ⟨rfl, rfl⟩
  · rw [Private, roster] at alone
    exact h.reports alone

theorem subscriptions (h : n.Seats i queue initial s) {subs : Subscriptions Role}
    {registrations : Subscriptions Duty}
    (own : Subscriptions.ofMember subs i = registrations) :
    Seats { n with subscriptions := subs } i queue initial (s.enroll registrations) :=
  ⟨h.timing, h.member, h.reports, own⟩

theorem subscribe (h : n.Seats i queue initial s) :
    (n.subscribe i).Seats i queue initial s.subscribe := by
  obtain ⟨sources, subscribed⟩ := subscribe_eq h.living?
  rw [subscribed]
  refine (h.aside sources n.kernel n.crashed).subscriptions ?_
  rw [Subscriptions.ofMember_append, h.registrations]
  refine congrArg (s.registrations ++ ·) ?_
  dsimp only
  generalize s.monitor.settings.dependsOn = topics
  induction topics with
  | nil => rfl
  | cons topic rest ih => simpa [Subscriptions.ofMember, Role.member, Role.duty] using ih

theorem bind (h : n.Seats i queue initial s) (profile : Profile) :
    (n.bind i profile).Seats i queue initial (s.bind profile) := by
  have bound := h.input (.bind profile)
  rw [Node.bind, h.living?]
  refine bound.subscriptions ?_
  rw [Subscriptions.register, Subscriptions.ofMember_append, bound.registrations]
  simp [Subscriptions.ofMember, Role.member, Role.duty, Seat.input]

theorem launch (h : n.Seats i queue initial s) :
    (n.launch i).Seats i queue initial s.launch := by
  rw [Node.launch, h.living?, Seat.launch, Seat.worker?]
  dsimp only
  split_ifs with stopping working absent
  · exact h
  · exact h
  · exact h
  · rw [eq_of_beq absent]
    exact h
  · exact h.aside n.sources n.kernel true
  · cases s.monitor.backend with
    | absent => exact h
    | sysfs => exact (h.hire (some .files)).input .activate
    | netlink =>
        have linked := h.hire (some (.link (.start (schedule n.timing))))
        exact h.timing ▸ linked.input .activate

theorem notify (h : n.Seats i queue initial s) (source : Source) (state : SyncState) :
    (n.notify i source state).Seats i queue initial (s.notify source state) := by
  rw [Node.notify, h.living?, Seat.notify]
  dsimp only
  split
  · exact (h.aside _ n.kernel n.crashed).input (.notify source state)
  · exact h

theorem teardown (h : n.Seats i queue initial s) :
    (n.teardown i).Seats i queue initial s.teardown := by
  have ended := h.input .teardown
  rw [Node.teardown, h.living?, Seat.teardown]
  dsimp only
  split
  · exact ended
  · refine ended.subscriptions ?_
    refine (Subscriptions.ofMember_unregisterAll _ i _ _).trans ?_
    rw [ended.registrations]
    rfl

theorem effect (h : n.Seats i queue initial s) (e : Link.Effect) :
    (n.effect i e).Seats i queue initial (s.effect e) := by
  cases e with
  | ingest devices => exact h.input (.ingest devices)
  | teardown => exact h.teardown
  | close c => exact h.aside n.sources (n.transport.close c n.kernel) n.crashed
  | wait => exact h

theorem effects (h : n.Seats i queue initial s) (effects : List Link.Effect) :
    Seats (effects.foldl (fun n e => n.effect i e) n) i queue initial
      (effects.foldl Seat.effect s) := by
  induction effects generalizing n s with
  | nil => exact h
  | cons e rest ih => exact ih (h.effect e)

theorem move (h : n.Seats i queue initial s) (m : Link.Move) :
    (n.move i m).Seats i queue initial (s.move m) := by
  have linked : n.link? i = match s.worker with
      | some (.link l) => some l
      | _ => none := by
    rw [Node.link?, h.member]
    rcases s.worker with _ | _ | l <;> rfl
  rw [Node.move, linked, Seat.move]
  rcases working : s.worker with _ | _ | l
  · exact h
  · exact h
  rw [Option.bind_some]
  dsimp only
  cases l.step m with
  | none => exact h
  | some made => exact (h.hire (some (.link made.1))).effects made.2

theorem act (h : n.Seats i queue initial s) (a : Act) :
    (n.act i a).Seats i queue initial (s.act a) := by
  cases a with
  | subscribe => exact h.subscribe
  | bind profile => exact h.bind profile
  | launch => exact h.launch
  | notify source state => exact h.notify source state
  | input x => exact h.input x
  | move m => exact h.move m
  | retire => exact h.hire none
  | teardown => exact h.teardown

end Seats

end Node

end DpllWatch
